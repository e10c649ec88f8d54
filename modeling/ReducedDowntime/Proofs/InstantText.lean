import ReducedDowntime.Proofs.Calendar
import ReducedDowntime.Time.Rfc3339

/-!
# Reading back the text of an instant

`Instant.rfc3339` writes an instant as its year, two-digit month, day, hour, minute and second,
a fraction of 3, 6 or 9 digits and `Z`; `parseInstant` reads those fields back one after the
other. Reading the text written for an instant that a document can carry gives the instant back
(`parseInstant_rfc3339`), and every instant read is one a document can carry
(`parseInstant_representable`).

The reader of numbers is taken once for a run of digits followed by anything that is not a
digit (`readNumber_digits`); every field the writer makes is such a run.
-/

namespace ReducedDowntime

@[simp] theorem ok_bind {ε α β : Type} (a : α) (f : α → Except ε β) :
    (Except.ok a >>= f : Except ε β) = f a := rfl

@[simp] theorem error_bind {ε α β : Type} (e : ε) (f : α → Except ε β) :
    (Except.error e >>= f : Except ε β) = .error e := rfl

theorem bind_eq_ok {ε α β : Type} {x : Except ε α} {f : α → Except ε β} {b : β}
    (h : x >>= f = .ok b) : ∃ a, x = .ok a ∧ f a = .ok b := by
  cases x with
  | error e => cases h
  | ok a => exact ⟨a, rfl, h⟩

@[simp] theorem pure_eq_ok {ε α : Type} (a : α) : (pure a : Except ε α) = .ok a := rfl

namespace Time

/-- An instant as a document carries it: within the supported range, and past the first 10^9
nanoseconds of its second only in a leap second, which is the last second of a minute. -/
def Instant.Representable (t : Instant) : Prop :=
  t.inRange = true ∧ (t.nanos < 1000000000 ∨ (t.nanos < 2000000000 ∧ t.seconds % 60 = 59))

/-! ## Runs of digits -/

theorem isBlank_of_isDigit {c : Char} (h : c.isDigit = true) : isBlank c = false := by
  have hc := Char.isDigit_iff_toNat.mp h
  simp only [Char.reduceToNat] at hc
  simp only [isBlank, Bool.or_eq_false_iff, Bool.and_eq_false_imp, decide_eq_true_eq,
    decide_eq_false_iff_not, beq_eq_false_iff_ne, ne_eq]
  omega

theorem dropBlanks_of_not_blank {c : Char} (h : isBlank c = false) (s : List Char) :
    dropBlanks (c :: s) = c :: s := by
  simp [dropBlanks, h]

theorem dropBlanks_of_isDigit {c : Char} (h : c.isDigit = true) (s : List Char) :
    dropBlanks (c :: s) = c :: s :=
  dropBlanks_of_not_blank (isBlank_of_isDigit h) s

theorem le_ofDigitChars (ds : List Char) (acc : Nat) : acc ≤ Nat.ofDigitChars 10 ds acc := by
  rw [Nat.ofDigitChars_eq_ofDigitChars_zero]
  exact Nat.le_add_right_of_le (Nat.le_mul_of_pos_left acc (Nat.pow_pos (by decide)))

/-- The reader takes a run of digits whole when the run fits the most it may read and ends
there or before a character that is not a digit. -/
theorem readNumber_go_digits {least most : Nat} {rest : List Char} {ds : List Char}
    (hds : ∀ c ∈ ds, c.isDigit = true) {i acc : Nat} (hmost : i + ds.length ≤ most)
    (hleast : least ≤ i + ds.length)
    (hstop : i + ds.length = most ∨ ∀ c ∈ rest.head?, c.isDigit = false)
    (hbound : Nat.ofDigitChars 10 ds acc ≤ 9223372036854775807) :
    readNumber.go least most (ds ++ rest) i acc = .ok (Nat.ofDigitChars 10 ds acc, rest) := by
  induction ds generalizing i acc with
  | nil =>
    simp only [List.length_nil, Nat.add_zero] at hmost hleast hstop
    cases rest with
    | nil => rw [List.nil_append, readNumber.go, if_neg (by omega)]; rfl
    | cons c r =>
      rw [List.nil_append, readNumber.go]
      by_cases hi : i ≥ most
      · rw [if_pos hi]; rfl
      · have hc : c.isDigit = false := by
          rcases hstop with h | h
          · omega
          · exact h c rfl
        rw [if_neg hi, if_neg (by simp [hc]), if_neg (by omega)]; rfl
  | cons c ds ih =>
    have hc := hds c (.head _)
    simp only [List.length_cons] at hmost hleast hstop
    rw [Nat.ofDigitChars_cons] at hbound ⊢
    have hacc : acc * 10 + (c.toNat - 48) ≤ 9223372036854775807 := by
      have := le_ofDigitChars ds (10 * acc + (c.toNat - '0'.toNat))
      simp only [Char.reduceToNat] at this hbound
      omega
    rw [List.cons_append, readNumber.go, if_neg (by omega), if_pos hc]
    simp only [gt_iff_lt, Nat.not_lt.mpr hacc, if_false]
    rw [ih (fun x hx => hds x (.tail _ hx)) (by omega) (by omega) (hstop.imp_left (by omega))]
    · simp only [Char.reduceToNat, Nat.mul_comm]
    · simpa only [Char.reduceToNat, Nat.mul_comm] using hbound

theorem readNumber_digits {least most : Nat} {rest : List Char} {ds : List Char}
    (hne : ds ≠ []) (hds : ∀ c ∈ ds, c.isDigit = true) (hmost : ds.length ≤ most)
    (hleast : least ≤ ds.length)
    (hstop : ds.length = most ∨ ∀ c ∈ rest.head?, c.isDigit = false)
    (hbound : Nat.ofDigitChars 10 ds 0 ≤ 9223372036854775807) :
    readNumber (ds ++ rest) least most = .ok (Nat.ofDigitChars 10 ds 0, rest) := by
  have hnonempty : (ds ++ rest).isEmpty = false := by
    cases ds with
    | nil => exact absurd rfl hne
    | cons c ds => rfl
  unfold readNumber
  rw [hnonempty, Bool.false_and, if_neg (by decide)]
  exact readNumber_go_digits hds (by omega) (by omega) (by simpa using hstop) hbound

/-- A run of digits is worth less than ten to its length. -/
theorem ofDigitChars_lt {ds : List Char} (hds : ∀ c ∈ ds, c.isDigit = true) :
    ∀ acc, Nat.ofDigitChars 10 ds acc < (acc + 1) * Nat.pow 10 ds.length := by
  induction ds with
  | nil =>
    intro acc
    show acc < (acc + 1) * 1
    omega
  | cons c ds ih =>
    intro acc
    have hc := Char.isDigit_iff_toNat.mp (hds c (.head _))
    simp only [Char.reduceToNat] at hc
    have hpow : Nat.pow 10 (ds.length + 1) = Nat.pow 10 ds.length * 10 := rfl
    rw [Nat.ofDigitChars_cons, List.length_cons, hpow]
    have hlt := ih (fun x hx => hds x (.tail _ hx)) (10 * acc + (c.toNat - '0'.toNat))
    simp only [Char.reduceToNat] at hlt ⊢
    have hstep : (10 * acc + (c.toNat - 48) + 1) * Nat.pow 10 ds.length ≤
        (acc + 1) * (Nat.pow 10 ds.length * 10) := by
      rw [Nat.mul_comm (Nat.pow 10 ds.length) 10, ← Nat.mul_assoc]
      exact Nat.mul_le_mul_right _ (by omega)
    omega

/-! ## The fields the writer makes -/

/-- The characters `pad2` makes are the digits. -/
theorem digit_ofNat : ∀ d, d < 10 →
    (Char.ofNat (48 + d)).isDigit = true ∧ (Char.ofNat (48 + d)).toNat - 48 = d := by
  decide

theorem pad2_toList (n : Nat) :
    (pad2 n).toList = [Char.ofNat (48 + n / 10 % 10), Char.ofNat (48 + n % 10)] := by
  simp [pad2]

/-- A two-digit field within its range reads back. -/
theorem readField_pad2 {n lo hi : Nat} (hn : n < 100) (hlo : lo ≤ n) (hhi : n ≤ hi)
    (rest : List Char) : readField ((pad2 n).toList ++ rest) lo hi = .ok (n, rest) := by
  obtain ⟨ha, ha'⟩ := digit_ofNat (n / 10 % 10) (by omega)
  obtain ⟨hb, hb'⟩ := digit_ofNat (n % 10) (by omega)
  have hval : Nat.ofDigitChars 10 [Char.ofNat (48 + n / 10 % 10), Char.ofNat (48 + n % 10)] 0 = n := by
    simp only [Nat.ofDigitChars_cons, Nat.ofDigitChars_nil, Char.reduceToNat, ha', hb']
    omega
  have hread : readNumber ([Char.ofNat (48 + n / 10 % 10), Char.ofNat (48 + n % 10)] ++ rest) 1 2 =
      .ok (Nat.ofDigitChars 10 [Char.ofNat (48 + n / 10 % 10), Char.ofNat (48 + n % 10)] 0, rest) :=
    readNumber_digits (List.cons_ne_nil _ _) (by simp [ha, hb]) (by simp) (by simp) (.inl rfl)
      (by omega)
  unfold readField
  rw [pad2_toList, List.cons_append, dropBlanks_of_isDigit ha, ← List.cons_append, hread, hval]
  simp [hlo, hhi]

theorem padDigits_toList (w n : Nat) :
    (padDigits w n).toList =
      List.replicate (w - (Nat.toDigits 10 n).length) '0' ++ Nat.toDigits 10 n := by
  simp [padDigits, String.toList_ofList]

theorem isDigit_of_mem_padDigits {w n : Nat} {c : Char} (h : c ∈ (padDigits w n).toList) :
    c.isDigit = true := by
  rw [padDigits_toList, List.mem_append, List.mem_replicate] at h
  rcases h with ⟨-, rfl⟩ | h
  · decide
  · exact Nat.isDigit_of_mem_toDigits (by decide) (by decide) h

theorem ofDigitChars_padDigits (w n : Nat) : Nat.ofDigitChars 10 (padDigits w n).toList 0 = n := by
  rw [padDigits_toList, Nat.ofDigitChars_append, Nat.ofDigitChars_replicate_zero, Nat.mul_zero,
    Nat.ofDigitChars_ten_toDigits]

/-- A number with at most `w` digits is written in exactly `w`. -/
theorem length_padDigits {w n : Nat} (h : (Nat.toDigits 10 n).length ≤ w) :
    (padDigits w n).toList.length = w := by
  rw [padDigits_toList, List.length_append, List.length_replicate]
  omega

theorem length_padDigits_le (w n : Nat) :
    (padDigits w n).toList.length ≤ w + (Nat.toDigits 10 n).length := by
  rw [padDigits_toList, List.length_append, List.length_replicate]
  omega

theorem padDigits_ne_nil (w n : Nat) : (padDigits w n).toList ≠ [] := by
  rw [padDigits_toList]
  simp

/-- A number below 2^31 has at most ten digits. -/
theorem length_toDigits_le_ten {n : Nat} (h : n ≤ 2147483648) : (Nat.toDigits 10 n).length ≤ 10 :=
  (Nat.length_toDigits_le_iff (by decide) (by decide)).mpr (show n < 10000000000 by omega)

/-- The digits of `padDigits` read back whole before anything that is not a digit. -/
theorem readNumber_padDigits {w n least most : Nat} {rest : List Char}
    (hmost : (padDigits w n).toList.length ≤ most) (hleast : least ≤ (padDigits w n).toList.length)
    (hstop : (padDigits w n).toList.length = most ∨ ∀ c ∈ rest.head?, c.isDigit = false)
    (hn : n ≤ 9223372036854775807) :
    readNumber ((padDigits w n).toList ++ rest) least most = .ok (n, rest) := by
  rw [readNumber_digits (padDigits_ne_nil w n) (fun c hc => isDigit_of_mem_padDigits hc) hmost
    hleast hstop (by rw [ofDigitChars_padDigits]; exact hn), ofDigitChars_padDigits]

/-- The year as written reads back: four digits within 0 to 9999, a sign and its digits
otherwise. -/
theorem readYear_yearText {y : Int} (hy : -2147483648 ≤ y ∧ y ≤ 2147483647) {c : Char}
    (hc : c.isDigit = false) (rest : List Char) :
    readYear ((yearText y).toList ++ c :: rest) = .ok (y, c :: rest) := by
  have hstop : ∀ x ∈ (c :: rest).head?, x.isDigit = false := fun x hx => by
    cases hx
    exact hc
  have hpow : 4 + 10 ≤ Nat.pow 2 64 := by decide
  unfold readYear yearText
  by_cases hsmall : 0 ≤ y ∧ y ≤ 9999
  · -- four digits and no sign
    have hw : (Nat.toDigits 10 y.toNat).length ≤ 4 :=
      (Nat.length_toDigits_le_iff (by decide) (by decide)).mpr (show y.toNat < 10000 by omega)
    have hread : readNumber ((padDigits 4 y.toNat).toList ++ c :: rest) 1 4 =
        .ok (y.toNat, c :: rest) :=
      readNumber_padDigits (Nat.le_of_eq (length_padDigits hw)) (by rw [length_padDigits hw]; decide)
        (.inl (length_padDigits hw)) (by omega)
    obtain ⟨c0, tl, hds⟩ : ∃ c0 tl, (padDigits 4 y.toNat).toList = c0 :: tl := by
      cases h : (padDigits 4 y.toNat).toList with
      | nil => exact absurd h (padDigits_ne_nil _ _)
      | cons c0 tl => exact ⟨c0, tl, rfl⟩
    have hc0 : c0.isDigit = true := isDigit_of_mem_padDigits (by rw [hds]; exact .head _)
    rw [if_pos (by simp only [Bool.and_eq_true, decide_eq_true_eq]; omega), hds, List.cons_append, dropBlanks_of_isDigit hc0]
    dsimp only
    split
    · rename_i heq
      cases heq
      exact absurd hc0 (by decide)
    · rename_i heq
      cases heq
      exact absurd hc0 (by decide)
    · rw [← List.cons_append, ← hds, hread]
      simp only [ok_bind, pure, Except.pure]
      rw [if_pos (by simp only [Bool.and_eq_true, decide_eq_true_eq]; omega), Int.toNat_of_nonneg hsmall.1]
  · -- a sign, then the digits of the size
    have hsize : y.natAbs ≤ 2147483648 := by omega
    have hread : readNumber ((padDigits 4 y.natAbs).toList ++ c :: rest) 1 (Nat.pow 2 64) =
        .ok (y.natAbs, c :: rest) := by
      have hlen := length_padDigits_le 4 y.natAbs
      have hten := length_toDigits_le_ten hsize
      have hpos := List.length_pos_iff.mpr (padDigits_ne_nil 4 y.natAbs)
      exact readNumber_padDigits (by omega) (by omega) (.inr hstop) (by omega)
    rw [if_neg (by simp only [Bool.and_eq_true, decide_eq_true_eq]; omega)]
    by_cases hneg : y < 0
    · rw [if_pos hneg, String.toList_append, List.append_assoc]
      simp only [show ("-" : String).toList = ['-'] from rfl, List.cons_append, List.nil_append]
      rw [dropBlanks_of_not_blank (by decide)]
      simp only [hread, ok_bind, pure, Except.pure]
      have hval : -(y.natAbs : Int) = y := by omega
      rw [if_pos (by simp only [Bool.and_eq_true, decide_eq_true_eq]; omega), hval]
    · rw [if_neg hneg, String.toList_append, List.append_assoc]
      simp only [show ("+" : String).toList = ['+'] from rfl, List.cons_append, List.nil_append]
      rw [dropBlanks_of_not_blank (by decide)]
      simp only [hread, ok_bind, pure, Except.pure]
      have hval : (y.natAbs : Int) = y := by omega
      rw [if_pos (by simp only [Bool.and_eq_true, decide_eq_true_eq]; omega), hval]

/-! ## Fractions of a second -/

/-- `k` digits of `m`, standing for `m * 10^(9 - k)` nanoseconds. -/
theorem fraction_padDigits {k m n : Nat} (hk : k ≤ 9) (hw : (Nat.toDigits 10 m).length ≤ k)
    (hm : m * Nat.pow 10 (9 - k) = n) :
    ∃ ds : List Char, ("." ++ padDigits k m).toList = '.' :: ds ∧ ds ≠ [] ∧
      (∀ c ∈ ds, c.isDigit = true) ∧ ds.length ≤ 9 ∧
      Nat.ofDigitChars 10 ds 0 * Nat.pow 10 (9 - ds.length) = n := by
  refine ⟨(padDigits k m).toList, by simp [String.toList_append], padDigits_ne_nil _ _,
    fun c hc => isDigit_of_mem_padDigits hc, by rw [length_padDigits hw]; exact hk, ?_⟩
  rw [length_padDigits hw, ofDigitChars_padDigits, hm]

/-- A fraction the writer makes is a point and the first 3, 6 or 9 digits of the nanoseconds,
the digits left out being zeros. -/
theorem fractionText_digits {n : Nat} (hn : n < 1000000000) (h0 : n ≠ 0) :
    ∃ ds : List Char, (fractionText n).toList = '.' :: ds ∧ ds ≠ [] ∧
      (∀ c ∈ ds, c.isDigit = true) ∧ ds.length ≤ 9 ∧
      Nat.ofDigitChars 10 ds 0 * Nat.pow 10 (9 - ds.length) = n := by
  unfold fractionText
  rw [if_neg (by simpa using h0)]
  by_cases h6 : n % 1000000 = 0
  · rw [if_pos (by simpa using h6)]
    exact fraction_padDigits (by decide)
      ((Nat.length_toDigits_le_iff (by decide) (by decide)).mpr (show n / 1000000 < 1000 by omega))
      (show n / 1000000 * 1000000 = n by omega)
  · rw [if_neg (by simpa using h6)]
    by_cases h3 : n % 1000 = 0
    · rw [if_pos (by simpa using h3)]
      exact fraction_padDigits (by decide)
        ((Nat.length_toDigits_le_iff (by decide) (by decide)).mpr (show n / 1000 < 1000000 by omega))
        (show n / 1000 * 1000 = n by omega)
    · rw [if_neg (by simpa using h3)]
      exact fraction_padDigits (by decide)
        ((Nat.length_toDigits_le_iff (by decide) (by decide)).mpr (show n < 1000000000 by omega))
        (show n * 1 = n by omega)

/-- A run of at most nine digits before anything that is not a digit reads as that many
leading digits of the nanoseconds. -/
theorem readFraction_digits {ds rest : List Char} (hne : ds ≠ []) (hds : ∀ c ∈ ds, c.isDigit = true)
    (hlen : ds.length ≤ 9) (hstop : ∀ c ∈ rest.head?, c.isDigit = false) :
    readFraction (ds ++ rest) =
      .ok (Nat.ofDigitChars 10 ds 0 * Nat.pow 10 (9 - ds.length), rest) := by
  have hlt := ofDigitChars_lt hds 0
  have hpow : Nat.pow 10 ds.length ≤ Nat.pow 10 9 := Nat.pow_le_pow_right (by decide) hlen
  have hpos := List.length_pos_iff.mpr hne
  have hnine : Nat.pow 10 9 = 1000000000 := rfl
  have hdrop : rest.dropWhile Char.isDigit = rest := by
    cases rest with
    | nil => rfl
    | cons c r => simp [hstop c rfl]
  unfold readFraction
  rw [readNumber_digits hne hds hlen (by omega) (.inr hstop) (by omega)]
  simp only [ok_bind, List.length_append, Nat.add_sub_cancel, hdrop]

/-! ## Instants -/

theorem expectChar_self (c : Char) (s : List Char) : expectChar c (c :: s) = .ok s := by
  simp [expectChar]

/-- After the seconds the writer puts nothing or a point and digits, and then `Z`; a run of
digits that reads back as the nanoseconds stands for either. -/
theorem fractionText_zulu {n : Nat} (hn : n < 1000000000) :
    ∃ ds, readFraction (ds ++ ['Z']) = .ok (n, ['Z']) ∧
      ((fractionText n).toList = [] ∧ n = 0 ∨ (fractionText n).toList = '.' :: ds) := by
  by_cases h0 : n = 0
  · subst h0
    exact ⟨['0'], rfl, .inl ⟨rfl, rfl⟩⟩
  · obtain ⟨ds, htext, hne, hds, hlen, hval⟩ := fractionText_digits hn h0
    refine ⟨ds, ?_, .inr htext⟩
    rw [readFraction_digits hne hds hlen (fun x hx => by cases hx; rfl), hval]

/-- The instant the reader builds is the one it started from when its seconds and
nanoseconds are. -/
theorem build_instant {t : Instant} {s : Int} {n : Nat} {e : TimeError} (hs : s = t.seconds)
    (hn : n = t.nanos) (hr : t.inRange = true) :
    (if ({ seconds := s, nanos := n } : Instant).inRange = true then
      Except.ok ({ seconds := s, nanos := n } : Instant) else Except.error e) = Except.ok t := by
  subst hs hn
  simp [hr]

/-- The fields an instant is written with build it back: its date, the hours, minutes and
seconds of its day with a leap second as the 60th, the nanoseconds within the second, and no
offset. -/
theorem instantOfFields_written {t : Instant} (ht : t.Representable) {n : Nat}
    (hn : n = t.nanos % 1000000000) :
    instantOfFields t.date.year t.date.month t.date.day (t.secondOfDay / 3600)
      (t.secondOfDay / 60 % 60) (t.secondOfDay % 60 + t.nanos / 1000000000) n 0 = .ok t := by
  subst hn
  obtain ⟨hin, hnanos⟩ := ht
  have hrange := hin
  simp only [Instant.inRange, Bool.and_eq_true, decide_eq_true_eq] at hrange
  unfold Instant.minSeconds Instant.maxSeconds at hrange
  -- the day: a supported date, whose count of days gives the instant's day back
  have hdays : Date.toDays ⟨-262143, 1, 1⟩ ≤ t.seconds / 86400 ∧
      t.seconds / 86400 ≤ Date.toDays ⟨262142, 12, 31⟩ := by omega
  have hyear : -262143 ≤ t.date.year ∧ t.date.year ≤ 262142 :=
    Date.ofDays_year_bounds hdays.1 hdays.2
  have hvalid : t.date.valid = true := Date.ofDays_valid (t.seconds / 86400)
  have hback : t.date.toDays = t.seconds / 86400 := Date.toDays_ofDays (t.seconds / 86400)
  have hsodv : (t.secondOfDay : Int) = t.seconds % 86400 := Int.toNat_of_nonneg (by omega)
  unfold instantOfFields
  simp only [hvalid, hback, hyear.1, hyear.2, decide_true, Bool.and_self, Bool.not_true,
    Bool.false_eq_true, if_false, Int.reduceLT, Int.reduceNeg, Int.sub_zero]
  -- a leap second is the 60th second, read back as the 59th
  by_cases hleap : t.nanos ≥ 1000000000
  · have h60 : t.secondOfDay % 60 + t.nanos / 1000000000 = 60 := by omega
    simp only [h60, beq_self_eq_true, if_true]
    exact build_instant (by omega) (by omega) hin
  · have h60 : (t.secondOfDay % 60 + t.nanos / 1000000000 == 60) = false := by
      simp only [beq_eq_false_iff_ne, ne_eq]
      omega
    simp only [h60, Bool.false_eq_true, if_false]
    exact build_instant (by omega) (by omega) hin

/-- Reading the text written for an instant a document can carry gives the instant back. -/
theorem parseInstant_rfc3339 {t : Instant} (ht : t.Representable) :
    parseInstant (t.rfc3339 true) = .ok t := by
  have hrange := ht.1
  simp only [Instant.inRange, Bool.and_eq_true, decide_eq_true_eq] at hrange
  unfold Instant.minSeconds Instant.maxSeconds at hrange
  have hvalid : t.date.valid = true := Date.ofDays_valid (t.seconds / 86400)
  simp only [Date.valid, Bool.and_eq_true, decide_eq_true_eq] at hvalid
  have hday : t.date.day ≤ 31 := by
    have := hvalid.2
    unfold daysInMonth at this
    split at this <;> (try split at this) <;> omega
  have hyear : -262143 ≤ t.date.year ∧ t.date.year ≤ 262142 :=
    Date.ofDays_year_bounds (by omega) (by omega)
  have hsod : t.secondOfDay < 86400 := by unfold Instant.secondOfDay; omega
  -- a leap second is written as the second after the 59th with the nanoseconds past it
  have hleapv : (if t.nanos ≥ 1000000000 then 1 else 0) = t.nanos / 1000000000 := by
    have := ht.2
    split <;> omega
  have hnnv : (if t.nanos ≥ 1000000000 then t.nanos - 1000000000 else t.nanos) =
      t.nanos % 1000000000 := by
    have := ht.2
    split <;> omega
  have hsec : t.secondOfDay % 60 + t.nanos / 1000000000 ≤ 60 := by
    have := ht.2
    unfold Instant.secondOfDay at hsod ⊢
    omega
  -- each field reads back as written
  have hY : ∀ R, readYear ((yearText t.date.year).toList ++ '-' :: R) = .ok (t.date.year, '-' :: R) :=
    readYear_yearText (by omega) (by decide)
  have hM : ∀ R, readField ((pad2 t.date.month).toList ++ R) 1 12 = .ok (t.date.month, R) :=
    readField_pad2 (by omega) (by omega) (by omega)
  have hD : ∀ R, readField ((pad2 t.date.day).toList ++ R) 1 31 = .ok (t.date.day, R) :=
    readField_pad2 (by omega) (by omega) hday
  have hH : ∀ R, readField ((pad2 (t.secondOfDay / 3600)).toList ++ R) 0 23 =
      .ok (t.secondOfDay / 3600, R) :=
    readField_pad2 (by omega) (by omega) (by omega)
  have hMi : ∀ R, readField ((pad2 (t.secondOfDay / 60 % 60)).toList ++ R) 0 59 =
      .ok (t.secondOfDay / 60 % 60, R) :=
    readField_pad2 (by omega) (by omega) (by omega)
  have hS : ∀ R, readField ((pad2 (t.secondOfDay % 60 + t.nanos / 1000000000)).toList ++ R) 0 60 =
      .ok (t.secondOfDay % 60 + t.nanos / 1000000000, R) :=
    readField_pad2 (by omega) (by omega) hsec
  obtain ⟨ds, hR, hF⟩ := fractionText_zulu (Nat.mod_lt t.nanos (by decide))
  unfold parseInstant Instant.rfc3339
  simp only [String.toList_append, List.append_assoc, show ("-" : String).toList = ['-'] from rfl,
    show ("T" : String).toList = ['T'] from rfl, show (":" : String).toList = [':'] from rfl,
    show ("Z" : String).toList = ['Z'] from rfl, List.cons_append, List.nil_append, if_true,
    hleapv, hnnv]
  simp only [hY, hM, hD, hH, hMi, hS, ok_bind, pure_eq_ok, expectChar_self,
    dropBlanks_of_not_blank (show isBlank '-' = false by decide),
    dropBlanks_of_not_blank (show isBlank ':' = false by decide), beq_self_eq_true, Bool.true_or,
    if_true]
  -- the fraction, then the offset `Z` and nothing after it
  rcases hF with ⟨hF, h0⟩ | hF <;>
    simp only [hF, hR, List.nil_append, List.cons_append, ok_bind, ↓Char.isValue,
      List.cons.injEq, Char.reduceEq, List.nil_eq, false_and, imp_self, implies_true,
      dropBlanks_of_not_blank (show isBlank 'Z' = false by decide),
      show startsWithUtc ['Z'] = false from rfl, show readOffset ['Z'] = .ok (0, []) from rfl,
      show dropBlanks [] = [] from rfl, List.isEmpty_nil, Bool.not_true, Bool.false_eq_true,
      if_false]
  · exact instantOfFields_written ht h0.symm
  · exact instantOfFields_written ht rfl

/-! ## What the reader reads -/

/-- The reader of numbers reads a run of digits, at most as many as it may. -/
theorem readNumber_go_ok {least most : Nat} {rest : List Char} {v : Nat} :
    ∀ {s : List Char} {i acc : Nat}, i ≤ most →
    readNumber.go least most s i acc = .ok (v, rest) →
    ∃ ds, s = ds ++ rest ∧ i + ds.length ≤ most ∧ (∀ c ∈ ds, c.isDigit = true) ∧
      v = Nat.ofDigitChars 10 ds acc
  | [], i, acc, hi, h => by
    rw [readNumber.go] at h
    split at h
    · cases h
    · cases h
      exact ⟨[], rfl, by simpa using hi, by simp, rfl⟩
  | c :: s, i, acc, hi, h => by
    rw [readNumber.go] at h
    split at h
    · cases h
      exact ⟨[], rfl, by simpa using hi, by simp, rfl⟩
    · split at h
      · rename_i hmost hc
        dsimp only at h
        split at h
        · cases h
        · obtain ⟨ds, hs, hlen, hds, hv⟩ := readNumber_go_ok (by omega) h
          refine ⟨c :: ds, by rw [hs]; rfl, by simp only [List.length_cons]; omega, ?_, ?_⟩
          · intro x hx
            rcases List.mem_cons.mp hx with rfl | hx
            · exact hc
            · exact hds x hx
          · rw [hv, Nat.ofDigitChars_cons]
            simp only [Char.reduceToNat, Nat.mul_comm]
      · split at h
        · cases h
        · cases h
          exact ⟨[], rfl, by simpa using hi, by simp, rfl⟩

/-- A fraction reads as fewer than 10^9 nanoseconds. -/
theorem readFraction_lt {s rest : List Char} {v : Nat} (h : readFraction s = .ok (v, rest)) :
    v < 1000000000 := by
  unfold readFraction at h
  obtain ⟨⟨v0, r⟩, hread, h⟩ := bind_eq_ok h
  cases h
  unfold readNumber at hread
  split at hread
  · cases hread
  obtain ⟨ds, hs, hlen, hds, hv⟩ := readNumber_go_ok (Nat.zero_le _) hread
  subst hs hv
  have hlt := ofDigitChars_lt hds 0
  have hpow : Nat.pow 10 ds.length * Nat.pow 10 (9 - ds.length) =
      Nat.pow 10 (ds.length + (9 - ds.length)) := (Nat.pow_add 10 _ _).symm
  have hnine : ds.length + (9 - ds.length) = 9 := by omega
  rw [hnine] at hpow
  have hused : (ds ++ r).length - r.length = ds.length := by simp
  rw [hused]
  calc Nat.ofDigitChars 10 ds 0 * Nat.pow 10 (9 - ds.length)
      < Nat.pow 10 ds.length * Nat.pow 10 (9 - ds.length) :=
        Nat.mul_lt_mul_of_pos_right (by simpa using hlt) (Nat.pow_pos (by decide))
    _ = 1000000000 := hpow

/-- An offset is read in whole minutes. -/
theorem readOffset_minutes {s rest : List Char} {offset : Int}
    (h : readOffset s = .ok (offset, rest)) : offset % 60 = 0 := by
  unfold readOffset at h
  split at h
  · cases h
    rfl
  · cases h
    rfl
  · cases h
  · dsimp only at h
    split at h
    · cases h
    · rename_i sign hsign
      split at h
      · split at h
        · cases h
        · split at h
          · split at h
            · split at h
              · cases h
                have hsign' : sign = 1 ∨ sign = -1 := by
                  split at hsign
                  · cases hsign; exact .inl rfl
                  · split at hsign
                    · cases hsign; exact .inr rfl
                    · cases hsign
                rcases hsign' with rfl | rfl <;> omega
              · cases h
            · cases h
          · cases h
      · cases h

/-- The instant built from fields as the reader reads them can be carried by a document: a
leap second comes only from the second 60, and an offset of whole minutes keeps it the last
second of a minute. -/
theorem instantOfFields_representable {year offset : Int} {month day hour minute second nanos : Nat}
    {t : Instant} (h : instantOfFields year month day hour minute second nanos offset = .ok t)
    (hnanos : nanos < 1000000000) (hoff : offset % 60 = 0) :
    t.Representable := by
  unfold instantOfFields at h
  dsimp only at h
  split at h
  · rw [error_bind] at h
    cases h
  split at h
  · rw [error_bind] at h
    cases h
  -- a leap second or not, then the range
  split at h
  · rename_i h60
    simp only [beq_iff_eq] at h60
    dsimp only at h
    split at h
    · rename_i hin
      cases h
      exact ⟨hin, .inr ⟨by dsimp only; omega, by dsimp only; omega⟩⟩
    · cases h
  · dsimp only at h
    split at h
    · rename_i hin
      cases h
      exact ⟨hin, .inl hnanos⟩
    · cases h

/-- After the offset only blanks may follow. -/
theorem ok_of_nothing_after {s : List Char} {x : Except TimeError Instant} {t : Instant}
    (h : (if (!(dropBlanks s).isEmpty) = true then
      Except.error TimeError.tooLong >>= fun (_ : PUnit) => x else x) = .ok t) : x = .ok t := by
  split at h
  · rw [error_bind] at h
    cases h
  · exact h

/-- The offset, `UTC` or read, is whole minutes. -/
theorem offset_minutes {s : List Char} {k : Int × List Char → Except TimeError Instant} {t : Instant}
    (h : (if startsWithUtc s = true then pure (0, s.drop 3) >>= k else readOffset s >>= k) = .ok t) :
    ∃ offset r, offset % 60 = 0 ∧ k (offset, r) = .ok t := by
  split at h
  · rw [pure_eq_ok, ok_bind] at h
    exact ⟨0, _, rfl, h⟩
  · obtain ⟨⟨offset, r⟩, hoff, h⟩ := bind_eq_ok h
    exact ⟨offset, r, readOffset_minutes hoff, h⟩

/-- Every instant read can be carried by a document. -/
theorem parseInstant_representable {text : String} {t : Instant} (h : parseInstant text = .ok t) :
    t.Representable := by
  unfold parseInstant at h
  -- the date and the separator
  obtain ⟨⟨year, s1⟩, -, h⟩ := bind_eq_ok h
  obtain ⟨s2, -, h⟩ := bind_eq_ok h
  obtain ⟨⟨month, s3⟩, -, h⟩ := bind_eq_ok h
  obtain ⟨s4, -, h⟩ := bind_eq_ok h
  obtain ⟨⟨day, s5⟩, -, h⟩ := bind_eq_ok h
  dsimp only at h
  split at h
  · split at h
    · -- the time of day
      rw [pure_eq_ok, ok_bind] at h
      obtain ⟨⟨hour, s6⟩, -, h⟩ := bind_eq_ok h
      obtain ⟨s7, -, h⟩ := bind_eq_ok h
      obtain ⟨⟨minute, s8⟩, -, h⟩ := bind_eq_ok h
      obtain ⟨s9, -, h⟩ := bind_eq_ok h
      obtain ⟨⟨second, s10⟩, -, h⟩ := bind_eq_ok h
      -- a fraction or none, then the offset
      split at h
      · obtain ⟨⟨nanos, s11⟩, hfrac, h⟩ := bind_eq_ok h
        obtain ⟨offset, r, hoff, h⟩ := offset_minutes h
        exact instantOfFields_representable (ok_of_nothing_after h) (readFraction_lt hfrac) hoff
      · rw [pure_eq_ok, ok_bind] at h
        obtain ⟨offset, r, hoff, h⟩ := offset_minutes h
        exact instantOfFields_representable (ok_of_nothing_after h) (show 0 < 1000000000 by decide) hoff
    · rw [error_bind] at h
      cases h
  · rw [error_bind] at h
    cases h

end Time

end ReducedDowntime
