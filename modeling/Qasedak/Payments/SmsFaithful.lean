import Qasedak.Payments.SmsLayout

/-! # What the parser reads of a bank SMS

The parser takes the first amount, balance, time and date of the text. Where nothing like them
stands before those of the bank, it reads these. -/

namespace Qasedak.Payments

open Foundation Regex Store

/-! ## Places -/

/-- A text around the amount of a deposit. -/
structure DepositText where
  above : List Char
  before : List Char
  number : List Char
  gap : List Char
  currency : List Char
  after : List Char
  below : List Char

def DepositText.line (t : DepositText) : List Char :=
  t.before ++ (t.number ++ t.gap ++ t.currency ++ t.after)

def DepositText.text (t : DepositText) : List Char := t.above ++ (t.line ++ t.below)

def HasKeyword (line : List Char) : Prop := ∃ keyword ∈ depositKeywords, keyword <:+: line

/-- A line that is no balance and holds an amount. -/
def AmountLine (line : List Char) : Prop :=
  ¬ "موجودی".toList <:+: line ∧ rialAmountRe.search line ≠ none

instance : DecidablePred HasKeyword := fun line =>
  inferInstanceAs (Decidable (∃ keyword ∈ depositKeywords, keyword <:+: line))

instance : DecidablePred AmountLine := fun _ => inferInstanceAs (Decidable (_ ∧ _))

/-- The deposit stands on a line of its own, and the parser comes to it first: no amount starts
before it in its line, and its line is the first with an amount and a keyword, or the first with
an amount where no line has both. -/
structure DepositText.Reads (t : DepositText) (amount : ℕ) : Prop where
  number : RendersNumber amount t.number
  gap : ∀ c ∈ t.gap, IsBlank c
  currency : normalizeSmsText t.currency = "ریال".toList
  above : t.above = [] ∨ (normalizeSmsText t.above).getLast? = some '\n'
  below : ∀ c ∈ (normalizeSmsText t.below).head?, isLineBreak c = true
  oneLine : ∀ c ∈ normalizeSmsText t.before ++ normalizeSmsText t.after, isLineBreak c = false
  nearest : NoneBefore rialAmountRe (normalizeSmsText t.before)
    (normalizeSmsText (t.number ++ t.gap ++ t.currency ++ t.after))
  unlabelled : ¬ "موجودی".toList <:+: normalizeSmsText t.line
  chosen : (HasKeyword (normalizeSmsText t.line) ∧
      ∀ line ∈ splitlines (normalizeSmsText t.above), ¬ (AmountLine line ∧ HasKeyword line)) ∨
    (∀ line ∈ splitlines (normalizeSmsText t.text), ¬ (AmountLine line ∧ HasKeyword line)) ∧
      ∀ line ∈ splitlines (normalizeSmsText t.above), ¬ AmountLine line

/-- A text around the balance. -/
structure BalanceText where
  before : List Char
  label : List Char
  gap : List Char
  colon : Option Char
  gap' : List Char
  number : List Char
  gap'' : List Char
  currency : List Char
  after : List Char

def BalanceText.rest (t : BalanceText) : List Char :=
  t.label ++ (t.gap ++ (t.colon.toList ++ (t.gap' ++ (t.number ++ t.gap'' ++ (t.currency ++ t.after)))))

def BalanceText.text (t : BalanceText) : List Char := t.before ++ t.rest

/-- The label, the number and the currency of a balance, with no other before it. -/
structure BalanceText.Reads (t : BalanceText) (balance : ℕ) : Prop where
  label : normalizeSmsText t.label = "موجودی".toList
  gap : ∀ c ∈ t.gap, IsBlank c
  colon : ∀ c ∈ t.colon, isColon c = true
  gap' : ∀ c ∈ t.gap', IsBlank c
  number : RendersNumber balance t.number
  gap'' : ∀ c ∈ t.gap'', IsBlank c
  currency : normalizeSmsText t.currency = "ریال".toList
  nearest : NoneBefore balanceRe (normalizeSmsText t.before) (normalizeSmsText t.rest)

/-- A text around the time. -/
structure TimeText where
  before : List Char
  hour : List Char
  gap : List Char
  colon : Char
  gap' : List Char
  minute : List Char
  after : List Char

def TimeText.rest (t : TimeText) : List Char :=
  t.hour ++ (t.gap ++ (t.colon :: (t.gap' ++ (t.minute ++ t.after))))

def TimeText.text (t : TimeText) : List Char := t.before ++ t.rest

/-- An hour of one or two digits and a minute of two, with no other time before them. -/
structure TimeText.Reads (t : TimeText) (hour minute : ℕ) : Prop where
  hour : RendersDigits hour t.hour
  hourLength : 1 ≤ t.hour.length ∧ t.hour.length ≤ 2
  gap : ∀ c ∈ t.gap, IsBlank c
  colon : isColon t.colon = true
  gap' : ∀ c ∈ t.gap', IsBlank c
  minute : RendersDigits minute t.minute
  minuteLength : t.minute.length = 2
  behind : ∀ c ∈ (normalizeSmsText t.before).getLast?, isDecimal c = false
  ahead : ∀ c ∈ (normalizeSmsText t.after).head?, isDecimal c = false
  nearest : NoneBefore timeRe (normalizeSmsText t.before) (normalizeSmsText t.rest)

/-- A date separator with the blanks around it. -/
structure DateGap where
  gap : List Char
  separator : Char
  gap' : List Char

def DateGap.text (g : DateGap) : List Char := g.gap ++ (g.separator :: g.gap')

structure DateGap.Reads (g : DateGap) : Prop where
  gap : ∀ c ∈ g.gap, IsBlank c
  separator : isDateSeparator g.separator = true
  gap' : ∀ c ∈ g.gap', IsBlank c

/-- A text around the date. -/
structure DateText where
  before : List Char
  year : List Char
  gap : DateGap
  month : List Char
  gap' : DateGap
  day : List Char
  after : List Char

def DateText.rest (t : DateText) : List Char :=
  t.year ++ (t.gap.text ++ (t.month ++ (t.gap'.text ++ (t.day ++ t.after))))

def DateText.text (t : DateText) : List Char := t.before ++ t.rest

/-- A year of four digits, a month and a day of one or two, with no other date before them. -/
structure DateText.Reads (t : DateText) (year month day : ℕ) : Prop where
  year : RendersDigits year t.year
  yearLength : t.year.length = 4
  gap : t.gap.Reads
  month : RendersDigits month t.month
  monthLength : 1 ≤ t.month.length ∧ t.month.length ≤ 2
  gap' : t.gap'.Reads
  day : RendersDigits day t.day
  dayLength : 1 ≤ t.day.length ∧ t.day.length ≤ 2
  behind : ∀ c ∈ (normalizeSmsText t.before).getLast?, isDecimal c = false
  ahead : ∀ c ∈ (normalizeSmsText t.after).head?, isDecimal c = false
  nearest : NoneBefore dateRe (normalizeSmsText t.before) (normalizeSmsText t.rest)

variable {n : ℕ} {c : Char} {cs behind rest run : List Char} {caps : Captures SmsGroup}

/-! ## Amounts -/

/-- The token takes the digits, the separators and the blanks up to another character. -/
theorem takes_token {x : Char} (hx : isAsciiDigit x = true)
    (hrun : ∀ y ∈ x :: run, isAmountChar y = true)
    (hrest : ∀ y ∈ rest.head?, isAmountChar y = false) :
    Takes amountTokenRe ⟨behind, (x :: run) ++ rest⟩ caps
      ⟨(x :: run).reverse ++ behind, rest⟩ caps := by
  have hstar := @Takes.star SmsGroup isAmountChar (x :: behind) rest run caps
    (fun y hy => hrun y (List.mem_cons_of_mem x hy)) hrest
  rw [List.reverse_cons, List.append_assoc]
  exact Takes.seq (Takes.char hx) hstar

theorem rial_head : ∀ y ∈ ("ریال".toList ++ rest).head?,
    isAmountChar y = false ∧ isSpace y = false := by
  intro y hy
  obtain rfl : 'ر' = y := Option.some.inj hy
  decide

/-- A token that ریال follows. -/
theorem takes_amount {name : SmsGroup} {x : Char} (hx : isAsciiDigit x = true)
    (hrun : ∀ y ∈ x :: run, isAmountChar y = true) :
    Takes (.seq (.group name amountTokenRe) (.seq (.star isSpace) (.word "ریال".toList)))
      ⟨behind, (x :: run) ++ ("ریال".toList ++ rest)⟩ caps
      ⟨"ریال".toList.reverse ++ ((x :: run).reverse ++ behind), rest⟩
      ((name, x :: run) :: caps) := by
  have htoken := @takes_token behind ("ریال".toList ++ rest) run caps x hx hrun
    fun y hy => (rial_head y hy).1
  have hspaces := @Takes.none SmsGroup isSpace ((x :: run).reverse ++ behind)
    ("ریال".toList ++ rest) ((name, x :: run) :: caps) none fun y hy => (rial_head y hy).2
  exact Takes.seq (Takes.group htoken) (Takes.seq hspaces (Takes.word _))

/-- What the parser finds in a line with an amount. -/
theorem search_line {t : DepositText} (h : t.Reads n) :
    ∃ caps, rialAmountRe.search (normalizeSmsText t.line) = some caps ∧
      normalizeNumber (caps.get .amount) = .ok n := by
  obtain ⟨x, run, htoken, hx, -, -, hchars, hvalue⟩ := token_of_rendered h.number h.gap
  have hrest : normalizeSmsText (t.number ++ t.gap ++ t.currency ++ t.after) =
      (x :: run) ++ ("ریال".toList ++ normalizeSmsText t.after) := by
    rw [normalizeSmsText_append, normalizeSmsText_append, htoken, h.currency, List.append_assoc]
  have hnearest := h.nearest
  rw [hrest] at hnearest
  refine ⟨[(.amount, x :: run)], ?_, hvalue⟩
  rw [DepositText.line, normalizeSmsText_append, hrest]
  exact search_eq hnearest (takes_amount hx fun y hy => (hchars y hy).1)

/-! ## The deposit line -/

theorem extractDepositFrom_skip {fallback : Option (List Char)} {lines lines' : List (List Char)}
    (h : ∀ line ∈ lines, ¬ (AmountLine line ∧ HasKeyword line)) :
    ∃ fallback', extractDepositFrom fallback (lines ++ lines') =
        extractDepositFrom fallback' lines' ∧
      ((∀ line ∈ lines, ¬ AmountLine line) → fallback' = fallback) ∧
      (fallback ≠ none → fallback' = fallback) := by
  induction lines generalizing fallback with
  | nil => exact ⟨fallback, rfl, fun _ => rfl, fun _ => rfl⟩
  | cons line lines ih =>
      have hrest := fun l hl => h l (List.mem_cons_of_mem line hl)
      rw [List.cons_append, extractDepositFrom_cons]
      by_cases hbalance : "موجودی".toList <:+: line
      · rw [if_pos hbalance]
        obtain ⟨fallback', heq, hnone, hkept⟩ := @ih fallback hrest
        exact ⟨fallback', heq, fun hall => hnone fun l hl => hall l (List.mem_cons_of_mem line hl),
          hkept⟩
      · rw [if_neg hbalance]
        cases hsearch : rialAmountRe.search line with
        | none =>
            obtain ⟨fallback', heq, hnone, hkept⟩ := @ih fallback hrest
            exact ⟨fallback', heq,
              fun hall => hnone fun l hl => hall l (List.mem_cons_of_mem line hl), hkept⟩
        | some caps =>
            have hamount : AmountLine line := ⟨hbalance, by simp [hsearch]⟩
            have hkeyword : ¬ HasKeyword line := fun hkeyword =>
              h line List.mem_cons_self ⟨hamount, hkeyword⟩
            rw [Option.elim_some,
              if_neg (show ¬ ∃ keyword ∈ depositKeywords, keyword <:+: line from hkeyword)]
            obtain ⟨fallback', heq, hnone, hkept⟩ := @ih
              (fallback.orElse fun _ => some (caps.get .amount)) hrest
            refine ⟨fallback', heq, fun hall => absurd hamount (hall line List.mem_cons_self),
              fun hsome => ?_⟩
            cases fallback with
            | none => exact absurd rfl hsome
            | some value => exact hkept (by simp)

theorem extractDepositFrom_end {value : List Char} {lines : List (List Char)}
    (h : ∀ line ∈ lines, ¬ (AmountLine line ∧ HasKeyword line)) :
    extractDepositFrom (some value) lines = normalizeNumber value := by
  obtain ⟨fallback', heq, -, hkept⟩ := @extractDepositFrom_skip (some value) lines [] h
  rw [List.append_nil] at heq
  rw [heq, hkept (by simp)]
  rfl

/-! ## Lines -/

theorem splitlines_ne_nil (c : Char) (cs : List Char) : splitlines (c :: cs) ≠ [] := by
  by_cases hcrlf : ∃ ds, c = '\r' ∧ cs = '\n' :: ds
  · obtain ⟨ds, rfl, rfl⟩ := hcrlf
    rw [splitlines.eq_2]
    exact List.cons_ne_nil [] _
  · rw [splitlines.eq_3 c cs fun ds hc hcs => hcrlf ⟨ds, hc, hcs⟩]
    split
    · exact List.cons_ne_nil [] _
    · split
      · exact List.cons_ne_nil _ _
      · exact List.cons_ne_nil _ _

theorem ne_return (hc : isLineBreak c = false) : c ≠ '\r' := by
  rintro rfl
  cases hc

theorem splitlines_cons {line : List Char} {lines : List (List Char)} (hc : isLineBreak c = false)
    (h : splitlines cs = line :: lines) : splitlines (c :: cs) = (c :: line) :: lines := by
  rw [splitlines.eq_3 c cs fun ds hreturn _ => absurd hreturn (ne_return hc), if_neg (by simp [hc]),
    h]

theorem splitlines_break (hc : isLineBreak c = true) : ∃ lines, splitlines (c :: cs) = [] :: lines := by
  by_cases hcrlf : ∃ ds, c = '\r' ∧ cs = '\n' :: ds
  · obtain ⟨ds, rfl, rfl⟩ := hcrlf
    exact ⟨_, splitlines.eq_2 ds⟩
  · rw [splitlines.eq_3 c cs fun ds hc hcs => hcrlf ⟨ds, hc, hcs⟩, if_pos hc]
    exact ⟨_, rfl⟩

/-- A line ends at the next boundary. -/
theorem splitlines_line {line below : List Char} (hne : line ≠ [])
    (hline : ∀ c ∈ line, isLineBreak c = false) (hbelow : ∀ c ∈ below.head?, isLineBreak c = true) :
    ∃ lines, splitlines (line ++ below) = line :: lines := by
  induction line with
  | nil => exact absurd rfl hne
  | cons c line ih =>
      have hc := hline c List.mem_cons_self
      cases line with
      | cons d line =>
          obtain ⟨lines, hlines⟩ := ih (List.cons_ne_nil d line) fun x hx =>
            hline x (List.mem_cons_of_mem c hx)
          exact ⟨lines, splitlines_cons hc hlines⟩
      | nil =>
          cases below with
          | nil =>
              refine ⟨[], ?_⟩
              rw [List.append_nil, splitlines.eq_3 c [] (fun ds _ hcs => by cases hcs),
                if_neg (by simp [hc])]
              rfl
          | cons b below =>
              obtain ⟨lines, hlines⟩ := @splitlines_break b below (hbelow b rfl)
              exact ⟨lines, splitlines_cons hc hlines⟩

/-- After a newline the lines start anew. -/
theorem splitlines_newline (above rest : List Char) :
    splitlines (above ++ '\n' :: rest) = splitlines (above ++ ['\n']) ++ splitlines rest := by
  have hnewline (rest : List Char) : splitlines ('\n' :: rest) = [] :: splitlines rest := by
    rw [splitlines.eq_3 '\n' rest fun ds hc _ => absurd hc (by decide), if_pos (by decide)]
  induction above using splitlines.induct with
  | case1 =>
      rw [List.nil_append, List.nil_append, hnewline, hnewline]
      rfl
  | case2 above ih =>
      rw [List.cons_append, List.cons_append, List.cons_append, List.cons_append, splitlines.eq_2,
        splitlines.eq_2, ih]
      rfl
  | case3 c above hcrlf hc ih =>
      cases above with
      | nil =>
          by_cases hreturn : c = '\r'
          · subst hreturn
            rw [List.singleton_append, List.singleton_append, splitlines.eq_2, splitlines.eq_2]
            rfl
          · rw [List.singleton_append, List.singleton_append,
              splitlines.eq_3 c _ fun ds h _ => hreturn h, splitlines.eq_3 c _ fun ds h _ => hreturn h,
              if_pos hc, if_pos hc, hnewline, hnewline]
            rfl
      | cons d above =>
          have hnot (x : List Char) : ∀ ds, c = '\r' → d :: above ++ x = '\n' :: ds → False :=
            fun ds hreturn h => hcrlf above hreturn (by rw [(List.cons.inj h).1])
          change splitlines (c :: (d :: above ++ '\n' :: rest)) =
            splitlines (c :: (d :: above ++ ['\n'])) ++ splitlines rest
          rw [splitlines.eq_3 c _ (hnot _), splitlines.eq_3 c _ (hnot _), if_pos hc, if_pos hc, ih]
          rfl
  | case4 c above hcrlf hc hnone ih =>
      rw [Bool.not_eq_true] at hc
      cases hlines : splitlines (above ++ ['\n']) with
      | nil => cases above <;> exact absurd hlines (splitlines_ne_nil _ _)
      | cons line lines =>
          rw [List.cons_append, List.cons_append, splitlines_cons hc hlines]
          rw [hlines] at ih
          rw [splitlines_cons hc ih]
          rfl
  | case5 c above hcrlf hc l ls hsome ih =>
      rw [Bool.not_eq_true] at hc
      cases hlines : splitlines (above ++ ['\n']) with
      | nil => cases above <;> exact absurd hlines (splitlines_ne_nil _ _)
      | cons line lines =>
          rw [List.cons_append, List.cons_append, splitlines_cons hc hlines]
          rw [hlines] at ih
          rw [splitlines_cons hc ih]
          rfl

/-- The lines above, the line, and others. -/
theorem splitlines_parts {above line below : List Char}
    (habove : above = [] ∨ above.getLast? = some '\n') (hne : line ≠ [])
    (hline : ∀ c ∈ line, isLineBreak c = false) (hbelow : ∀ c ∈ below.head?, isLineBreak c = true) :
    ∃ lines, splitlines (above ++ (line ++ below)) = splitlines above ++ line :: lines := by
  obtain ⟨lines, hlines⟩ := splitlines_line hne hline hbelow
  refine ⟨lines, ?_⟩
  rcases habove with rfl | habove
  · exact hlines
  · obtain ⟨above, rfl⟩ := List.getLast?_eq_some_iff.mp habove
    rw [List.append_assoc, List.singleton_append, splitlines_newline, hlines]

/-- The amount of the deposit is read. -/
theorem extractDepositAmount_reads {t : DepositText} (h : t.Reads n) :
    extractDepositAmount (normalizeSmsText t.text) = .ok n := by
  obtain ⟨caps, hsearch, hvalue⟩ := search_line h
  obtain ⟨x, run, htoken, -, -, -, hchars, -⟩ := token_of_rendered h.number h.gap
  have hparts : normalizeSmsText t.line = normalizeSmsText t.before ++
      ((x :: run) ++ ("ریال".toList ++ normalizeSmsText t.after)) := by
    rw [DepositText.line, normalizeSmsText_append, normalizeSmsText_append,
      normalizeSmsText_append, htoken, h.currency, List.append_assoc]
  have hne : normalizeSmsText t.line ≠ [] := by
    rw [hparts]
    simp
  have hrial : ∀ c ∈ ['ر', 'ی', 'ا', 'ل'], isLineBreak c = false := by simp [isLineBreak]
  have hline : ∀ c ∈ normalizeSmsText t.line, isLineBreak c = false := by
    intro c hc
    rw [hparts] at hc
    rcases List.mem_append.mp hc with hc | hc
    · exact h.oneLine c (List.mem_append_left _ hc)
    · rcases List.mem_append.mp hc with hc | hc
      · exact (hchars c hc).2
      · rcases List.mem_append.mp hc with hc | hc
        · exact hrial c hc
        · exact h.oneLine c (List.mem_append_right _ hc)
  have habove : normalizeSmsText t.above = [] ∨
      (normalizeSmsText t.above).getLast? = some '\n' := by
    refine h.above.imp_left fun hempty => ?_
    rw [hempty]
    rfl
  obtain ⟨lines, hlines⟩ := splitlines_parts habove hne hline h.below
  have htext : splitlines (normalizeSmsText t.text) =
      splitlines (normalizeSmsText t.above) ++ normalizeSmsText t.line :: lines := by
    rw [DepositText.text, normalizeSmsText_append, normalizeSmsText_append, hlines]
  have hchosen := h.chosen
  rw [htext] at hchosen
  rw [extractDepositAmount, htext]
  rcases hchosen with ⟨hkeyword, hfirst⟩ | ⟨hnone, hfirst⟩
  · obtain ⟨fallback, heq, -, -⟩ := @extractDepositFrom_skip none _
      (normalizeSmsText t.line :: lines) hfirst
    rw [heq, extractDepositFrom_cons, if_neg h.unlabelled, hsearch]
    dsimp only [Option.elim]
    rw [if_pos (show ∃ keyword ∈ depositKeywords, keyword <:+: _ from hkeyword), hvalue]
  · obtain ⟨fallback, heq, hkept, -⟩ := @extractDepositFrom_skip none _
      (normalizeSmsText t.line :: lines) fun l hl => hnone l (List.mem_append_left _ hl)
    have hamount : AmountLine (normalizeSmsText t.line) := ⟨h.unlabelled, by simp [hsearch]⟩
    have hkeyword : ¬ HasKeyword (normalizeSmsText t.line) := fun hkeyword =>
      hnone _ (List.mem_append_right _ List.mem_cons_self) ⟨hamount, hkeyword⟩
    rw [heq, hkept hfirst, extractDepositFrom_cons, if_neg h.unlabelled, hsearch]
    dsimp only [Option.elim]
    rw [if_neg (show ¬ ∃ keyword ∈ depositKeywords, keyword <:+: _ from hkeyword)]
    rw [← hvalue]
    exact extractDepositFrom_end fun l hl =>
      hnone l (List.mem_append_right _ (List.mem_cons_of_mem _ hl))

/-! ## The balance -/

theorem digitTranslation_isColon (h : isColon c = true) :
    digitTranslation c = [c] ∧ isSpace c = false ∧ isDecimal c = false := by
  rw [isColon, Bool.or_eq_true, beq_iff_eq, beq_iff_eq] at h
  rcases h with rfl | h
  · decide
  · obtain rfl : c = '：' := by
      rw [← Char.ofNat_toNat c, h]
    decide

/-- A colon between blanks, or nothing. -/
theorem takes_colon {colon : Option Char} {gap gap' : List Char}
    (hgap : ∀ x ∈ gap, isSpace x = true) (hcolon : ∀ x ∈ colon, isColon x = true)
    (hgap' : ∀ x ∈ gap', isSpace x = true)
    (hrest : ∀ y ∈ rest.head?, isSpace y = false ∧ isColon y = false) {s : Regex SmsGroup}
    {c' : Cursor} {caps' : Captures SmsGroup}
    (hs : Takes s ⟨gap'.reverse ++ (colon.toList.reverse ++ (gap.reverse ++ behind)), rest⟩ caps
      c' caps') :
    Takes (.seq (.star isSpace) (.seq (.optional isColon) (.seq (.star isSpace) s)))
      ⟨behind, gap ++ (colon.toList ++ (gap' ++ rest))⟩ caps c' caps' := by
  cases colon with
  | some x =>
      obtain ⟨-, hspace, -⟩ := digitTranslation_isColon (hcolon x rfl)
      have hfirst := @Takes.star SmsGroup isSpace behind (x :: (gap' ++ rest)) gap caps hgap
        (by simpa using hspace)
      have hsecond := @Takes.many SmsGroup isColon (gap.reverse ++ behind) (gap' ++ rest) [x] caps 0
        (some 1) (by simpa using hcolon x rfl) (Nat.zero_le 1) (.inl rfl)
      have hthird := @Takes.star SmsGroup isSpace (x :: (gap.reverse ++ behind)) rest gap' caps hgap'
        fun y hy => (hrest y hy).1
      exact Takes.seq hfirst (Takes.seq hsecond (Takes.seq hthird hs))
  | none =>
      have hall : ∀ x ∈ gap ++ gap', isSpace x = true := fun x hx =>
        (List.mem_append.mp hx).elim (hgap x) (hgap' x)
      have hfirst := @Takes.star SmsGroup isSpace behind rest (gap ++ gap') caps hall
        fun y hy => (hrest y hy).1
      have hsecond := @Takes.none SmsGroup isColon ((gap ++ gap').reverse ++ behind) rest caps (some 1)
        fun y hy => (hrest y hy).2
      have hthird := @Takes.none SmsGroup isSpace ((gap ++ gap').reverse ++ behind) rest caps none
        fun y hy => (hrest y hy).1
      have hplace : (gap ++ gap').reverse ++ behind = gap'.reverse ++ (gap.reverse ++ behind) := by
        rw [List.reverse_append, List.append_assoc]
      rw [hplace] at hfirst hsecond hthird
      have hwhole : gap ++ ((none : Option Char).toList ++ (gap' ++ rest)) = gap ++ gap' ++ rest := by
        simp
      rw [hwhole]
      exact Takes.seq hfirst (Takes.seq hsecond (Takes.seq hthird hs))

theorem normalizeSmsText_colon {colon : Option Char} (h : ∀ x ∈ colon, isColon x = true) :
    normalizeSmsText colon.toList = colon.toList := by
  refine normalizeSmsText_fixed fun x hx => ?_
  exact (digitTranslation_isColon (h x (Option.mem_toList.mp hx))).1

/-- The balance is read. -/
theorem extractBalance_reads {t : BalanceText} (h : t.Reads n) :
    extractBalance (normalizeSmsText t.text) = .ok n := by
  obtain ⟨x, run, htoken, hx, hcolon, hspace, hchars, hvalue⟩ := token_of_rendered h.number h.gap''
  have hrest : normalizeSmsText t.rest = "موجودی".toList ++ (normalizeSmsText t.gap ++
      (t.colon.toList ++ (normalizeSmsText t.gap' ++
        ((x :: run) ++ ("ریال".toList ++ normalizeSmsText t.after))))) := by
    simp only [BalanceText.rest, normalizeSmsText_append, h.label, h.currency,
      normalizeSmsText_colon h.colon]
    rw [← normalizeSmsText_append t.number, htoken]
  have hnearest := h.nearest
  rw [hrest] at hnearest
  have hamount := fun behind => @takes_amount behind (normalizeSmsText t.after) run [] .balance x hx
    fun y hy => (hchars y hy).1
  have hmatch := Takes.seq
    (@Takes.word SmsGroup (normalizeSmsText t.before).reverse _ [] "موجودی".toList) (takes_colon
    (fun y hy => (normalized_blanks h.gap y hy).1) h.colon
    (fun y hy => (normalized_blanks h.gap' y hy).1)
    (fun y hy => by
      obtain rfl : x = y := Option.some.inj hy
      exact ⟨hspace, hcolon⟩) (hamount _))
  have hsearch := search_eq hnearest hmatch
  rw [extractBalance, BalanceText.text, normalizeSmsText_append, hrest]
  rw [show balanceRe.search _ = _ from hsearch]
  exact hvalue

/-! ## The time and the date -/

/-- Digits up to another character are one number. -/
theorem takes_digits {name : SmsGroup} {lo hi : ℕ} (hrun : ∀ x ∈ run, isDecimal x = true)
    (hlo : lo ≤ run.length) (hhi : run.length ≤ hi)
    (hrest : ∀ x ∈ rest.head?, isDecimal x = false) :
    Takes (.group name (.many isDecimal lo (some hi))) ⟨behind, run ++ rest⟩ caps
      ⟨run.reverse ++ behind, rest⟩ ((name, run) :: caps) := by
  refine Takes.group (Takes.many hrun hlo (.inr ⟨hrest, fun m hm => ?_⟩))
  obtain rfl := Option.some.inj hm
  exact hhi

/-- A separator between blanks. -/
theorem takes_separator {p : Char → Bool} {gap gap' : List Char} {x : Char}
    (hgap : ∀ y ∈ gap, isSpace y = true) (hx : p x = true) (hspace : isSpace x = false)
    (hgap' : ∀ y ∈ gap', isSpace y = true) (hrest : ∀ y ∈ rest.head?, isSpace y = false) :
    Takes (.seq (.star isSpace) (.seq (.char p) (.star isSpace)))
      ⟨behind, gap ++ (x :: (gap' ++ rest))⟩ caps
      ⟨gap'.reverse ++ (x :: (gap.reverse ++ behind)), rest⟩ caps := by
  have hfirst := @Takes.star SmsGroup isSpace behind (x :: (gap' ++ rest)) gap caps hgap
    (by simpa using hspace)
  have hsecond := @Takes.char SmsGroup p (gap.reverse ++ behind) (gap' ++ rest) caps x hx
  have hthird := @Takes.star SmsGroup isSpace (x :: (gap.reverse ++ behind)) rest gap' caps hgap' hrest
  exact Takes.seq hfirst (Takes.seq hsecond hthird)

theorem isSpace_of_isDecimal (h : isDecimal c = true) : isSpace c = false := by
  by_contra hspace
  rw [isDecimal_isSpace (by simpa using hspace)] at h
  cases h

theorem head_digits {x : Char} (hne : cs ≠ []) (hcs : ∀ y ∈ cs, isDecimal y = true)
    (hx : x ∈ (cs ++ rest).head?) : isDecimal x = true := by
  cases cs with
  | nil => exact absurd rfl hne
  | cons y cs =>
      obtain rfl : y = x := Option.some.inj hx
      exact hcs y List.mem_cons_self

/-- Blanks and a separator end a number. -/
theorem head_gap {gap : List Char} {x : Char} (hgap : ∀ y ∈ gap, isSpace y = true)
    (hx : isDecimal x = false) : ∀ y ∈ (gap ++ (x :: rest)).head?, isDecimal y = false := by
  intro y hy
  cases gap with
  | nil =>
      obtain rfl : x = y := Option.some.inj hy
      exact hx
  | cons z gap =>
      obtain rfl : z = y := Option.some.inj hy
      exact isDecimal_isSpace (hgap z List.mem_cons_self)

theorem ne_nil_of_length (h : 1 ≤ cs.length) : cs ≠ [] := by
  rintro rfl
  exact absurd h (by decide)

/-- The time is found. -/
theorem search_time {t : TimeText} {hour minute : ℕ} (h : t.Reads hour minute) :
    ∃ caps, timeRe.search (normalizeSmsText t.text) = some caps ∧
      intOfDigits (caps.get .hour) = hour ∧ intOfDigits (caps.get .minute) = minute := by
  obtain ⟨hhour, hhourLength, hhourValue⟩ := normalized_digits h.hour
  obtain ⟨hminute, hminuteLength, hminuteValue⟩ := normalized_digits h.minute
  obtain ⟨hcolon, hcolonSpace, hcolonDigit⟩ := digitTranslation_isColon h.colon
  have hgap := fun y hy => (normalized_blanks h.gap y hy).1
  have hgap' := fun y hy => (normalized_blanks h.gap' y hy).1
  have hrest : normalizeSmsText t.rest = normalizeSmsText t.hour ++ (normalizeSmsText t.gap ++
      (t.colon :: (normalizeSmsText t.gap' ++ (normalizeSmsText t.minute ++
        normalizeSmsText t.after)))) := by
    simp only [TimeText.rest, normalizeSmsText_append, normalizeSmsText_cons, hcolon,
      List.singleton_append]
  have hnearest := h.nearest
  rw [hrest] at hnearest
  have hminuteNe : normalizeSmsText t.minute ≠ [] :=
    ne_nil_of_length (by rw [hminuteLength, h.minuteLength]; decide)
  have hbehind := @Takes.notBehind SmsGroup isDecimal (normalizeSmsText t.before).reverse
    (normalizeSmsText t.rest) [] (by simpa using h.behind)
  rw [hrest] at hbehind
  have hfirst := fun rest => @takes_digits (normalizeSmsText t.before).reverse
    (normalizeSmsText t.gap ++ (t.colon :: rest)) (normalizeSmsText t.hour) [] .hour 1 2 hhour
    (hhourLength ▸ h.hourLength.1) (hhourLength ▸ h.hourLength.2) (head_gap hgap hcolonDigit)
  have hsecond := fun place caps => @takes_digits place (normalizeSmsText t.after)
    (normalizeSmsText t.minute) caps .minute 2 2 hminute (by rw [hminuteLength, h.minuteLength])
    (by rw [hminuteLength, h.minuteLength]) h.ahead
  have hend := fun place caps =>
    @Takes.notAhead SmsGroup isDecimal place (normalizeSmsText t.after) caps h.ahead
  have hmatch := Takes.seq hbehind (Takes.seq (hfirst _) (Takes.assoc (Takes.seq
    (takes_separator hgap h.colon hcolonSpace hgap'
      (fun y hy => isSpace_of_isDecimal (head_digits hminuteNe hminute hy)))
    (Takes.seq (hsecond _ _) (hend _ _)))))
  have hsearch := search_eq hnearest hmatch
  refine ⟨[(.minute, normalizeSmsText t.minute), (.hour, normalizeSmsText t.hour)], ?_,
    hhourValue, hminuteValue⟩
  rw [TimeText.text, normalizeSmsText_append, hrest]
  exact hsearch

theorem digitTranslation_isDateSeparator (h : isDateSeparator c = true) :
    digitTranslation c = [c] ∧ isSpace c = false ∧ isDecimal c = false := by
  simp only [isDateSeparator, Bool.or_eq_true, beq_iff_eq] at h
  rcases h with (rfl | rfl) | rfl <;> decide

/-- The date is found. -/
theorem search_date {t : DateText} {year month day : ℕ} (h : t.Reads year month day) :
    ∃ caps, dateRe.search (normalizeSmsText t.text) = some caps ∧
      intOfDigits (caps.get .year) = year ∧ intOfDigits (caps.get .month) = month ∧
        intOfDigits (caps.get .day) = day := by
  obtain ⟨hyear, hyearLength, hyearValue⟩ := normalized_digits h.year
  obtain ⟨hmonth, hmonthLength, hmonthValue⟩ := normalized_digits h.month
  obtain ⟨hday, hdayLength, hdayValue⟩ := normalized_digits h.day
  obtain ⟨hsep, hsepSpace, hsepDigit⟩ := digitTranslation_isDateSeparator h.gap.separator
  obtain ⟨hsep', hsepSpace', hsepDigit'⟩ := digitTranslation_isDateSeparator h.gap'.separator
  have hblank := fun y hy => (normalized_blanks h.gap.gap y hy).1
  have hblank' := fun y hy => (normalized_blanks h.gap.gap' y hy).1
  have hblank₂ := fun y hy => (normalized_blanks h.gap'.gap y hy).1
  have hblank₂' := fun y hy => (normalized_blanks h.gap'.gap' y hy).1
  have hrest : normalizeSmsText t.rest = normalizeSmsText t.year ++
      (normalizeSmsText t.gap.gap ++ (t.gap.separator :: (normalizeSmsText t.gap.gap' ++
        (normalizeSmsText t.month ++ (normalizeSmsText t.gap'.gap ++ (t.gap'.separator ::
          (normalizeSmsText t.gap'.gap' ++ (normalizeSmsText t.day ++
            normalizeSmsText t.after)))))))) := by
    simp only [DateText.rest, DateGap.text, normalizeSmsText_append, normalizeSmsText_cons, hsep,
      hsep', List.append_assoc, List.cons_append, List.nil_append]
  have hnearest := h.nearest
  rw [hrest] at hnearest
  have hmonthNe : normalizeSmsText t.month ≠ [] :=
    ne_nil_of_length (hmonthLength ▸ h.monthLength.1)
  have hdayNe : normalizeSmsText t.day ≠ [] := ne_nil_of_length (hdayLength ▸ h.dayLength.1)
  have hbehind := @Takes.notBehind SmsGroup isDecimal (normalizeSmsText t.before).reverse
    (normalizeSmsText t.rest) [] (by simpa using h.behind)
  rw [hrest] at hbehind
  have hfirst := fun rest => @takes_digits (normalizeSmsText t.before).reverse
    (normalizeSmsText t.gap.gap ++ (t.gap.separator :: rest)) (normalizeSmsText t.year) [] .year 4 4
    hyear (by rw [hyearLength, h.yearLength]) (by rw [hyearLength, h.yearLength])
    (head_gap hblank hsepDigit)
  have hsecond := fun place rest caps => @takes_digits place
    (normalizeSmsText t.gap'.gap ++ (t.gap'.separator :: rest)) (normalizeSmsText t.month) caps
    .month 1 2 hmonth (hmonthLength ▸ h.monthLength.1) (hmonthLength ▸ h.monthLength.2)
    (head_gap hblank₂ hsepDigit')
  have hthird := fun place caps => @takes_digits place (normalizeSmsText t.after)
    (normalizeSmsText t.day) caps .day 1 2 hday (hdayLength ▸ h.dayLength.1)
    (hdayLength ▸ h.dayLength.2) h.ahead
  have hend := fun place caps =>
    @Takes.notAhead SmsGroup isDecimal place (normalizeSmsText t.after) caps h.ahead
  have hmatch := Takes.seq hbehind (Takes.seq (hfirst _) (Takes.seq
    (takes_separator hblank h.gap.separator hsepSpace hblank'
      (fun y hy => isSpace_of_isDecimal (head_digits hmonthNe hmonth hy)))
    (Takes.seq (hsecond _ _ _) (Takes.seq
      (takes_separator hblank₂ h.gap'.separator hsepSpace' hblank₂'
        (fun y hy => isSpace_of_isDecimal (head_digits hdayNe hday hy)))
      (Takes.seq (hthird _ _) (hend _ _))))))
  have hsearch := search_eq hnearest hmatch
  refine ⟨[(.day, normalizeSmsText t.day), (.month, normalizeSmsText t.month),
    (.year, normalizeSmsText t.year)], ?_, hyearValue, hmonthValue, hdayValue⟩
  rw [DateText.text, normalizeSmsText_append, hrest]
  exact hsearch

/-! ## The message -/

def sampleDeposit : DepositText where
  above := "بلو\nواریز پول\n".toList
  before := "مشتری عزیز، ".toList
  number := "4,830,000".toList
  gap := " ".toList
  currency := "ریال".toList
  after := " به حساب شما نشست.".toList
  below := "\nموجودی: 109,609,358 ریال\n۱۸:۵۶\n۱۴۰۵.۰۲.۱۴".toList

def sampleBalance : BalanceText where
  before := "بلو\nواریز پول\nمشتری عزیز، 4,830,000 ریال به حساب شما نشست.\n".toList
  label := "موجودی".toList
  gap := []
  colon := some ':'
  gap' := " ".toList
  number := "109,609,358".toList
  gap'' := " ".toList
  currency := "ریال".toList
  after := "\n۱۸:۵۶\n۱۴۰۵.۰۲.۱۴".toList

def sampleTime : TimeText where
  before := sampleBalance.before ++ "موجودی: 109,609,358 ریال\n".toList
  hour := "۱۸".toList
  gap := []
  colon := ':'
  gap' := []
  minute := "۵۶".toList
  after := "\n۱۴۰۵.۰۲.۱۴".toList

def sampleDate : DateText where
  before := sampleTime.before ++ "۱۸:۵۶\n".toList
  year := "۱۴۰۵".toList
  gap := { gap := [], separator := '.', gap' := [] }
  month := "۰۲".toList
  gap' := { gap := [], separator := '.', gap' := [] }
  day := "۱۴".toList
  after := []

end Qasedak.Payments
