import Qasedak.Foundation.Regex
import Qasedak.Payments.SmsParser

/-! # The layout of a bank SMS

Numbers in ASCII, Persian or Arabic-Indic digits, with the separators that the amount token
takes, and the places of a text that hold the deposit, the balance, the time and the date. -/

namespace Qasedak.Payments

open Foundation Regex

/-! ## Numbers -/

/-- The value of a digit in one of the three scripts. -/
def smsDigit (c : Char) : Option ℕ :=
  if 0x30 ≤ c.toNat ∧ c.toNat ≤ 0x39 then some (c.toNat - 0x30)
  else if 0x6F0 ≤ c.toNat ∧ c.toNat ≤ 0x6F9 then some (c.toNat - 0x6F0)
  else if 0x660 ≤ c.toNat ∧ c.toNat ≤ 0x669 then some (c.toNat - 0x660)
  else none

/-- White space within a line, the non-joiner, and the marks that the translation drops. -/
def IsBlank (c : Char) : Prop :=
  isSpace c = true ∧ isLineBreak c = false ∨ c.toNat = 0x200C ∨ c.toNat = 0x200E ∨ c.toNat = 0x200F

def IsGrouping (c : Char) : Prop := c = ',' ∨ c.toNat = 0x66C ∨ c.toNat = 0x60C ∨ IsBlank c

instance : DecidablePred IsBlank := fun c => inferInstanceAs (Decidable (_ ∨ _))

instance : DecidablePred IsGrouping := fun c => inferInstanceAs (Decidable (_ ∨ _))

def numberOf (digits : List ℕ) : ℕ := digits.foldl (fun n d => 10 * n + d) 0

/-- The number in digits of the three scripts. -/
structure RendersDigits (n : ℕ) (cs : List Char) : Prop where
  digits : ∀ c ∈ cs, (smsDigit c).isSome = true
  value : numberOf (cs.filterMap smsDigit) = n

/-- The number in digits of the three scripts, from the first digit on grouped in any way. -/
structure RendersNumber (n : ℕ) (cs : List Char) : Prop where
  chars : ∀ c ∈ cs, (smsDigit c).isSome = true ∨ IsGrouping c
  first : cs.head?.any (fun c => (smsDigit c).isSome) = true
  value : numberOf (cs.filterMap smsDigit) = n

/-- The character class of the amount token. -/
def isAmountChar (c : Char) : Bool := isAsciiDigit c || c == ',' || isSpace c

def asciiDigit (d : ℕ) : Char := Char.ofNat (0x30 + d)

variable {c : Char} {cs : List Char} {n d : ℕ}

theorem asciiDigit_facts : ∀ d < 10, isAsciiDigit (asciiDigit d) = true ∧
    digitValue (asciiDigit d) = some d ∧ isSpace (asciiDigit d) = false ∧
    isLineBreak (asciiDigit d) = false ∧ digitTranslation (asciiDigit d) = [asciiDigit d] ∧
    isColon (asciiDigit d) = false := by
  decide

theorem digitTranslation_smsDigit (h : smsDigit c = some d) :
    d < 10 ∧ digitTranslation c = [asciiDigit d] := by
  rw [smsDigit] at h
  split at h
  · next hascii =>
      obtain rfl := Option.some.inj h
      refine ⟨by omega, ?_⟩
      have hsame : asciiDigit (c.toNat - 0x30) = c := by
        rw [asciiDigit, Nat.add_sub_cancel' hascii.1, Char.ofNat_toNat]
      rw [hsame, digitTranslation]
      simp only [show ¬ (0x6F0 ≤ c.toNat ∧ c.toNat ≤ 0x6F9) by omega,
        show ¬ (0x660 ≤ c.toNat ∧ c.toNat ≤ 0x669) by omega, show ¬ c.toNat = 0x64A by omega,
        show ¬ c.toNat = 0x643 by omega, show ¬ (c.toNat = 0x66C ∨ c.toNat = 0x60C) by omega,
        show ¬ c.toNat = 0x200C by omega, show ¬ (c.toNat = 0x200E ∨ c.toNat = 0x200F) by omega,
        if_false]
  · split at h
    · next hpersian =>
        obtain rfl := Option.some.inj h
        refine ⟨by omega, ?_⟩
        rw [digitTranslation, if_pos hpersian, asciiDigit, Nat.add_comm]
    · split at h
      · next hpersian harabic =>
          obtain rfl := Option.some.inj h
          refine ⟨by omega, ?_⟩
          rw [digitTranslation, if_neg hpersian, if_pos harabic, asciiDigit, Nat.add_comm]
      · cases h

theorem digitTranslation_isSpace (h : isSpace c = true) : digitTranslation c = [c] := by
  simp only [isSpace, Bool.or_eq_true, Bool.and_eq_true, decide_eq_true_eq, beq_iff_eq] at h
  rw [digitTranslation]
  simp only [show ¬ (0x6F0 ≤ c.toNat ∧ c.toNat ≤ 0x6F9) by omega,
    show ¬ (0x660 ≤ c.toNat ∧ c.toNat ≤ 0x669) by omega, show ¬ c.toNat = 0x64A by omega,
    show ¬ c.toNat = 0x643 by omega, show ¬ (c.toNat = 0x66C ∨ c.toNat = 0x60C) by omega,
    show ¬ c.toNat = 0x200C by omega, show ¬ (c.toNat = 0x200E ∨ c.toNat = 0x200F) by omega,
    if_false]

theorem smsDigit_isSpace (h : isSpace c = true) : smsDigit c = none := by
  simp only [isSpace, Bool.or_eq_true, Bool.and_eq_true, decide_eq_true_eq, beq_iff_eq] at h
  simp only [smsDigit, show ¬ (0x30 ≤ c.toNat ∧ c.toNat ≤ 0x39) by omega,
    show ¬ (0x6F0 ≤ c.toNat ∧ c.toNat ≤ 0x6F9) by omega,
    show ¬ (0x660 ≤ c.toNat ∧ c.toNat ≤ 0x669) by omega, if_false]

theorem isDecimal_isSpace (h : isSpace c = true) : isDecimal c = false := by
  simp only [isSpace, Bool.or_eq_true, Bool.and_eq_true, decide_eq_true_eq, beq_iff_eq] at h
  have hnone : ∀ z ∈ decimalZeros, ¬ (z ≤ c.toNat ∧ c.toNat < z + 10) := by
    have hspaces : ∀ n ∈ (List.range' 9 5 ++ List.range' 0x1C 5 ++ [0x85, 0xA0, 0x1680] ++
        List.range' 0x2000 11 ++ [0x2028, 0x2029, 0x202F, 0x205F, 0x3000]),
        ∀ z ∈ decimalZeros, ¬ (z ≤ n ∧ n < z + 10) := by
      decide
    refine hspaces c.toNat ?_
    simp only [List.mem_append, List.mem_range'_1, List.mem_cons, List.not_mem_nil, or_false]
    omega
  rw [isDecimal, digitValue, Option.isSome_map]
  rw [Bool.eq_false_iff]
  intro hfound
  obtain ⟨z, hz⟩ := Option.isSome_iff_exists.mp hfound
  have hz' := List.find?_some hz
  simp only [Bool.and_eq_true, decide_eq_true_eq] at hz'
  exact hnone z (List.mem_of_find?_eq_some hz) hz'

/-- A blank leaves white space within the line, or nothing. -/
theorem digitTranslation_blank (h : IsBlank c) :
    (∀ x ∈ digitTranslation c, isSpace x = true ∧ isLineBreak x = false) ∧ smsDigit c = none := by
  rcases h with ⟨hspace, hbreak⟩ | h | h | h
  · rw [digitTranslation_isSpace hspace]
    exact ⟨by simpa using ⟨hspace, hbreak⟩, smsDigit_isSpace hspace⟩
  · have hblank : digitTranslation c = [' '] := by simp [digitTranslation, h]
    have hspace : isSpace ' ' = true ∧ isLineBreak ' ' = false := by decide
    rw [hblank]
    exact ⟨by simpa using hspace, by simp [smsDigit, h]⟩
  · have hnothing : digitTranslation c = [] := by simp [digitTranslation, h]
    rw [hnothing]
    exact ⟨by simp, by simp [smsDigit, h]⟩
  · have hnothing : digitTranslation c = [] := by simp [digitTranslation, h]
    rw [hnothing]
    exact ⟨by simp, by simp [smsDigit, h]⟩

/-- What becomes of a separator is taken by the token, and is no digit. -/
theorem digitTranslation_grouping (h : IsGrouping c) :
    (∀ x ∈ digitTranslation c, isAmountChar x = true ∧ isLineBreak x = false ∧
      isDecimal x = false ∧ digitTranslation x = [x]) ∧ smsDigit c = none := by
  have hcomma : isAmountChar ',' = true ∧ isLineBreak ',' = false ∧ isDecimal ',' = false ∧
      digitTranslation ',' = [','] := by decide
  rcases h with rfl | h | h | h
  · rw [hcomma.2.2.2]
    exact ⟨by simpa using hcomma, by decide⟩
  · have hblank : digitTranslation c = [','] := by simp [digitTranslation, h]
    rw [hblank]
    exact ⟨by simpa using hcomma, by simp [smsDigit, h]⟩
  · have hblank : digitTranslation c = [','] := by simp [digitTranslation, h]
    rw [hblank]
    exact ⟨by simpa using hcomma, by simp [smsDigit, h]⟩
  · obtain ⟨hblank, hdigit⟩ := digitTranslation_blank h
    refine ⟨fun x hx => ?_, hdigit⟩
    obtain ⟨hspace, hbreak⟩ := hblank x hx
    exact ⟨by simp [isAmountChar, hspace], hbreak, isDecimal_isSpace hspace,
      digitTranslation_isSpace hspace⟩

theorem normalizeSmsText_append (cs ds : List Char) :
    normalizeSmsText (cs ++ ds) = normalizeSmsText cs ++ normalizeSmsText ds :=
  List.flatMap_append

theorem normalizeSmsText_cons (c : Char) (cs : List Char) :
    normalizeSmsText (c :: cs) = digitTranslation c ++ normalizeSmsText cs :=
  List.flatMap_cons

theorem normalizeSmsText_fixed (h : ∀ c ∈ cs, digitTranslation c = [c]) :
    normalizeSmsText cs = cs := by
  induction cs with
  | nil => rfl
  | cons c cs ih =>
      rw [normalizeSmsText_cons, h c List.mem_cons_self,
        ih fun d hd => h d (List.mem_cons_of_mem c hd)]
      rfl

theorem isDecimal_asciiDigit (hd : d < 10) : isDecimal (asciiDigit d) = true := by
  rw [isDecimal, (asciiDigit_facts d hd).2.1]
  rfl

theorem intOfDigits_asciiDigits {ds : List ℕ} (h : ∀ d ∈ ds, d < 10) :
    intOfDigits (ds.map asciiDigit) = numberOf ds := by
  have hfold (m : ℕ) : (ds.map asciiDigit).foldl (fun n c => 10 * n + (digitValue c).getD 0) m =
      ds.foldl (fun n d => 10 * n + d) m := by
    induction ds generalizing m with
    | nil => rfl
    | cons d ds ih =>
        rw [List.map_cons, List.foldl_cons, List.foldl_cons,
          (asciiDigit_facts d (h d List.mem_cons_self)).2.1]
        exact ih (fun x hx => h x (List.mem_cons_of_mem d hx)) _
  exact hfold 0

theorem lt_ten_of_mem (h : d ∈ cs.filterMap smsDigit) : d < 10 := by
  obtain ⟨c, -, hc⟩ := List.mem_filterMap.mp h
  exact (digitTranslation_smsDigit hc).1

/-! ## Tokens -/

/-- The digits of a token after the translation are those that were written. -/
theorem filter_normalized_token (h : ∀ c ∈ cs, (smsDigit c).isSome = true ∨ IsGrouping c) :
    (∀ x ∈ normalizeSmsText cs, isAmountChar x = true ∧ isLineBreak x = false) ∧
      (normalizeSmsText (normalizeSmsText cs)).filter isDecimal =
        (cs.filterMap smsDigit).map asciiDigit := by
  induction cs with
  | nil => exact ⟨by simp [normalizeSmsText], rfl⟩
  | cons c cs ih =>
      obtain ⟨hchars, hdigits⟩ := ih fun x hx => h x (List.mem_cons_of_mem c hx)
      rw [normalizeSmsText_cons, normalizeSmsText_append, List.filter_append, hdigits]
      rcases h c List.mem_cons_self with hc | hc
      · obtain ⟨d, hd⟩ := Option.isSome_iff_exists.mp hc
        obtain ⟨hlt, htranslated⟩ := digitTranslation_smsDigit hd
        obtain ⟨hascii, -, -, hbreak, hfixed, -⟩ := asciiDigit_facts d hlt
        rw [htranslated]
        refine ⟨?_, ?_⟩
        · rw [List.singleton_append, List.forall_mem_cons]
          exact ⟨⟨by simp [isAmountChar, hascii], hbreak⟩, hchars⟩
        · rw [normalizeSmsText_fixed (by simpa using hfixed), List.filterMap_cons_some hd,
            List.map_cons]
          simp [isDecimal_asciiDigit hlt]
      · obtain ⟨htranslated, hnone⟩ := digitTranslation_grouping hc
        refine ⟨?_, ?_⟩
        · intro x hx
          rcases List.mem_append.mp hx with hx | hx
          · exact ⟨(htranslated x hx).1, (htranslated x hx).2.1⟩
          · exact hchars x hx
        · have hnothing : (digitTranslation c).filter isDecimal = [] :=
            List.filter_eq_nil_iff.mpr fun x hx => by simp [(htranslated x hx).2.2.1]
          rw [normalizeSmsText_fixed fun x hx => (htranslated x hx).2.2.2, hnothing,
            List.filterMap_cons_none hnone]
          rfl

/-- A number and the blanks after it are one token of its value. -/
theorem token_of_rendered {num gap : List Char} (h : RendersNumber n num)
    (hgap : ∀ c ∈ gap, IsBlank c) :
    ∃ x run, normalizeSmsText (num ++ gap) = x :: run ∧ isAsciiDigit x = true ∧
      isColon x = false ∧ isSpace x = false ∧
      (∀ y ∈ x :: run, isAmountChar y = true ∧ isLineBreak y = false) ∧
      normalizeNumber (x :: run) = .ok n := by
  have hall : ∀ c ∈ num ++ gap, (smsDigit c).isSome = true ∨ IsGrouping c := by
    intro c hc
    rcases List.mem_append.mp hc with hc | hc
    · exact h.chars c hc
    · exact .inr (.inr (.inr (.inr (hgap c hc))))
  obtain ⟨hchars, hdigits⟩ := filter_normalized_token hall
  have hnone : gap.filterMap smsDigit = [] :=
    List.filterMap_eq_nil_iff.mpr fun c hc => (digitTranslation_blank (hgap c hc)).2
  rw [List.filterMap_append, hnone, List.append_nil] at hdigits
  cases num with
  | nil => exact absurd h.first (by simp)
  | cons c num =>
      obtain ⟨d, hd⟩ := Option.isSome_iff_exists.mp (show (smsDigit c).isSome = true from h.first)
      obtain ⟨hlt, htranslated⟩ := digitTranslation_smsDigit hd
      obtain ⟨hascii, -, hspace, -, -, hcolon⟩ := asciiDigit_facts d hlt
      have hsplit : normalizeSmsText (c :: num ++ gap) =
          asciiDigit d :: normalizeSmsText (num ++ gap) := by
        rw [List.cons_append, normalizeSmsText_cons, htranslated]
        rfl
      refine ⟨asciiDigit d, normalizeSmsText (num ++ gap), hsplit, hascii, hcolon, hspace,
        hsplit ▸ hchars, ?_⟩
      rw [normalizeNumber, ← hsplit, hdigits, List.filterMap_cons_some hd, List.map_cons]
      dsimp only
      rw [← List.map_cons, ← List.filterMap_cons_some hd,
        intOfDigits_asciiDigits fun _ => lt_ten_of_mem, h.value]

/-- Plain digits after the translation. -/
theorem normalized_digits (h : RendersDigits n cs) :
    (∀ x ∈ normalizeSmsText cs, isDecimal x = true) ∧
      (normalizeSmsText cs).length = cs.length ∧ intOfDigits (normalizeSmsText cs) = n := by
  have hmap : normalizeSmsText cs = (cs.filterMap smsDigit).map asciiDigit ∧
      (cs.filterMap smsDigit).length = cs.length := by
    have hdigits := h.digits
    clear h
    induction cs with
    | nil => exact ⟨rfl, rfl⟩
    | cons c cs ih =>
        obtain ⟨hrest, hlength⟩ := ih fun x hx => hdigits x (List.mem_cons_of_mem c hx)
        obtain ⟨d, hd⟩ := Option.isSome_iff_exists.mp (hdigits c List.mem_cons_self)
        rw [normalizeSmsText_cons, (digitTranslation_smsDigit hd).2, hrest,
          List.filterMap_cons_some hd, List.length_cons, List.length_cons, hlength]
        exact ⟨rfl, rfl⟩
  rw [hmap.1, List.length_map, intOfDigits_asciiDigits fun _ => lt_ten_of_mem]
  refine ⟨fun x hx => ?_, hmap.2, h.value⟩
  obtain ⟨d, hd, rfl⟩ := List.mem_map.mp hx
  exact isDecimal_asciiDigit (lt_ten_of_mem hd)

theorem normalized_blanks (h : ∀ c ∈ cs, IsBlank c) :
    ∀ x ∈ normalizeSmsText cs, isSpace x = true ∧ isLineBreak x = false := by
  intro x hx
  obtain ⟨c, hc, hx⟩ := List.mem_flatMap.mp hx
  exact (digitTranslation_blank (h c hc)).1 x hx

end Qasedak.Payments
