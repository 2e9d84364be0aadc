import Mathlib.Data.List.Basic
import Mathlib

/-! Backtracking search for regular expressions whose repetitions are over one
character class each. Alternatives are tried in the order of a Perl-style engine:
a greedy repetition first takes as many characters as it can. -/

namespace Foundation

/-- A test of the characters of a text goes through the text, not through all characters. -/
instance decidableForallMemChars (cs : List Char) (p : Char → Prop) [DecidablePred p] :
    Decidable (∀ c ∈ cs, p c) :=
  List.decidableBAll p cs

instance decidableForallMemChar (c? : Option Char) (p : Char → Prop) [DecidablePred p] :
    Decidable (∀ c ∈ c?, p c) :=
  Option.decidableForallMem c?

/-- A place in a text: the characters before it, nearest first, and those after it. -/
structure Cursor where
  behind : List Char
  ahead : List Char
  deriving DecidableEq, Repr

def Cursor.start (text : List Char) : Cursor := ⟨[], text⟩

/-- Regular expressions with groups named by `γ`. -/
inductive Regex (γ : Type*) where
  /-- Between `lo` and `hi` characters of the class, greedily; no `hi` is unbounded. -/
  | many (p : Char → Bool) (lo : ℕ) (hi : Option ℕ)
  | seq (r s : Regex γ)
  | group (name : γ) (r : Regex γ)
  | notBehind (p : Char → Bool)
  | notAhead (p : Char → Bool)

/-- The texts captured so far, the latest first. -/
abbrev Captures (γ : Type*) := List (γ × List Char)

namespace Regex

variable {γ : Type*}

def char (p : Char → Bool) : Regex γ := many p 1 (some 1)

def optional (p : Char → Bool) : Regex γ := many p 0 (some 1)

def star (p : Char → Bool) : Regex γ := many p 0 none

/-- The characters of a word, one after the other. -/
def word : List Char → Regex γ
  | [] => many (fun _ => false) 0 none
  | c :: cs => seq (char (· == c)) (word cs)

/-- The places a greedy repetition can end at, the furthest first. -/
def runs (p : Char → Bool) : ℕ → Option ℕ → List Char → List Char → List Cursor
  | lo, _, behind, [] => if lo = 0 then [⟨behind, []⟩] else []
  | lo, hi, behind, c :: cs =>
      (if p c ∧ hi ≠ some 0 then runs p (lo - 1) (hi.map (· - 1)) (c :: behind) cs else []) ++
        if lo = 0 then [⟨behind, c :: cs⟩] else []

/-- The matches of an expression at a place, in the order they are tried. -/
def matchesAt : Regex γ → Cursor × Captures γ → List (Cursor × Captures γ)
  | many p lo hi, (c, caps) => (runs p lo hi c.behind c.ahead).map (·, caps)
  | seq r s, st => (matchesAt r st).flatMap (matchesAt s)
  | group name r, (c, caps) =>
      (matchesAt r (c, caps)).map fun (c', caps') =>
        (c', (name, (c'.behind.take (c'.behind.length - c.behind.length)).reverse) :: caps')
  | notBehind p, (c, caps) => if c.behind.head?.any p then [] else [(c, caps)]
  | notAhead p, (c, caps) => if c.ahead.head?.any p then [] else [(c, caps)]

/-- The captures of the first match, at the leftmost place that has one. -/
def searchFrom (r : Regex γ) : List Char → List Char → Option (Captures γ)
  | behind, [] => ((matchesAt r (⟨behind, []⟩, [])).head?).map Prod.snd
  | behind, c :: cs =>
      match (matchesAt r (⟨behind, c :: cs⟩, [])).head? with
      | some m => some m.2
      | none => searchFrom r (c :: behind) cs

def search (r : Regex γ) (text : List Char) : Option (Captures γ) :=
  searchFrom r [] text

end Regex

/-- The text a group captured. -/
def Captures.get {γ : Type*} [DecidableEq γ] (caps : Captures γ) (name : γ) : List Char :=
  ((caps.find? (fun c => c.1 = name)).map Prod.snd).getD []

end Foundation

/-! # The first match of a search

A search that finds nothing before a place finds what starts there; a greedy repetition that
stands before another character takes its whole run. -/

namespace Foundation

theorem head?_flatMap {α β : Type*} {f : α → List β} {xs : List α} {x : α} {y : β}
    (hx : xs.head? = some x) (hy : (f x).head? = some y) : (xs.flatMap f).head? = some y := by
  cases xs with
  | nil => cases hx
  | cons z xs =>
      obtain rfl : z = x := Option.some.inj hx
      rw [List.flatMap_cons, List.head?_append, hy]
      rfl

namespace Regex

variable {γ : Type*} {p : Char → Bool} {behind rest run : List Char} {caps : Captures γ}

/-- The repetition stops at its bound or before another character. -/
def Stops (p : Char → Bool) (hi : Option ℕ) (run rest : List Char) : Prop :=
  hi = some run.length ∨ (∀ c ∈ rest.head?, p c = false) ∧ ∀ n ∈ hi, run.length ≤ n

/-- A greedy repetition takes the whole run first. -/
theorem head?_runs {lo : ℕ} {hi : Option ℕ} (hrun : ∀ c ∈ run, p c = true)
    (hlo : lo ≤ run.length) (hstop : Stops p hi run rest) :
    (runs p lo hi behind (run ++ rest)).head? = some ⟨run.reverse ++ behind, rest⟩ := by
  induction run generalizing lo hi behind with
  | nil =>
      obtain rfl : lo = 0 := Nat.le_zero.mp hlo
      cases rest with
      | nil => rfl
      | cons c rest =>
          have hskip : ¬ (p c = true ∧ hi ≠ some 0) := by
            rintro ⟨hc, hhi⟩
            rcases hstop with hstop | ⟨hstop, -⟩
            · exact hhi hstop
            · rw [hstop c rfl] at hc
              cases hc
          rw [List.nil_append, runs, if_neg hskip]
          rfl
  | cons c run ih =>
      have hc : p c = true ∧ hi ≠ some 0 := by
        refine ⟨hrun c List.mem_cons_self, fun hzero => ?_⟩
        rcases hstop with hstop | ⟨-, hstop⟩
        · rw [hzero] at hstop
          cases hstop
        · have hle := hstop 0 hzero
          rw [List.length_cons] at hle
          omega
      have hstop' : Stops p (hi.map (· - 1)) run rest := by
        rcases hstop with hstop | ⟨hnext, hbound⟩
        · left
          rw [hstop]
          rfl
        · right
          refine ⟨hnext, fun n hn => ?_⟩
          obtain ⟨m, hm, rfl⟩ := Option.map_eq_some_iff.mp hn
          have hle := hbound m hm
          rw [List.length_cons] at hle
          omega
      have hlo' : lo - 1 ≤ run.length := by
        rw [List.length_cons] at hlo
        omega
      have hrest := @ih (c :: behind) _ _ (fun d hd => hrun d (List.mem_cons_of_mem c hd)) hlo' hstop'
      rw [List.cons_append, runs, if_pos hc, List.head?_append, hrest, List.reverse_cons,
        List.append_assoc]
      rfl

/-! ## Matches -/

/-- The first way to match, from one place to another. -/
def Takes (r : Regex γ) (c : Cursor) (caps : Captures γ) (c' : Cursor) (caps' : Captures γ) :
    Prop :=
  (matchesAt r (c, caps)).head? = some (c', caps')

variable {r s : Regex γ} {c c' c'' : Cursor} {caps' caps'' : Captures γ}

theorem Takes.many {lo : ℕ} {hi : Option ℕ} (hrun : ∀ c ∈ run, p c = true)
    (hlo : lo ≤ run.length) (hstop : Stops p hi run rest) :
    Takes (.many p lo hi) ⟨behind, run ++ rest⟩ caps ⟨run.reverse ++ behind, rest⟩ caps := by
  rw [Takes, matchesAt, List.head?_map, head?_runs hrun hlo hstop]
  rfl

theorem Takes.seq (hr : Takes r c caps c' caps') (hs : Takes s c' caps' c'' caps'') :
    Takes (.seq r s) c caps c'' caps'' := by
  rw [Takes, matchesAt]
  exact head?_flatMap hr hs

/-- Three expressions in brackets before a fourth. -/
theorem Takes.assoc {t u : Regex γ} (h : Takes (.seq (.seq r (.seq s t)) u) c caps c' caps') :
    Takes (.seq r (.seq s (.seq t u))) c caps c' caps' := by
  rw [Takes] at h ⊢
  simpa only [matchesAt, List.flatMap_assoc] using h

theorem Takes.star (hrun : ∀ c ∈ run, p c = true) (hnext : ∀ c ∈ rest.head?, p c = false) :
    Takes (.star p) ⟨behind, run ++ rest⟩ caps ⟨run.reverse ++ behind, rest⟩ caps :=
  Takes.many hrun (Nat.zero_le _) (.inr ⟨hnext, fun n hn => absurd hn (Option.not_mem_none n)⟩)

/-- A repetition of nothing. -/
theorem Takes.none {hi : Option ℕ} (hnext : ∀ c ∈ rest.head?, p c = false) :
    Takes (.many p 0 hi) ⟨behind, rest⟩ caps ⟨behind, rest⟩ caps :=
  @Takes.many _ _ behind rest [] _ 0 hi (by simp) (Nat.le_refl 0)
    (.inr ⟨hnext, fun n _ => Nat.zero_le n⟩)

theorem Takes.char {x : Char} (hx : p x = true) :
    Takes (.char p) ⟨behind, x :: rest⟩ caps ⟨x :: behind, rest⟩ caps :=
  @Takes.many _ _ _ _ [x] _ _ _ (by simpa using hx) (Nat.le_refl 1) (.inl rfl)

theorem Takes.word (cs : List Char) :
    Takes (.word cs) ⟨behind, cs ++ rest⟩ caps ⟨cs.reverse ++ behind, rest⟩ caps := by
  induction cs generalizing behind with
  | nil =>
      refine @Takes.many _ _ _ _ [] _ _ _ (by simp) (Nat.le_refl 0) (.inr ⟨fun _ _ => rfl, ?_⟩)
      exact fun n hn => absurd hn (Option.not_mem_none n)
  | cons x cs ih =>
      have hrest := @ih (x :: behind)
      rw [List.reverse_cons, List.append_assoc]
      exact Takes.seq (Takes.char (by simp)) hrest

theorem Takes.group {name : γ} (h : Takes r ⟨behind, run ++ rest⟩ caps
    ⟨run.reverse ++ behind, rest⟩ caps') :
    Takes (.group name r) ⟨behind, run ++ rest⟩ caps ⟨run.reverse ++ behind, rest⟩
      ((name, run) :: caps') := by
  rw [Takes, matchesAt, List.head?_map, h]
  have hlength : (run.reverse ++ behind).length - behind.length = run.reverse.length := by
    rw [List.length_append]
    omega
  simp only [Option.map_some, hlength, List.take_left, List.reverse_reverse]

theorem Takes.notBehind (h : ∀ x ∈ behind.head?, p x = false) :
    Takes (.notBehind p) ⟨behind, rest⟩ caps ⟨behind, rest⟩ caps := by
  rw [Takes, matchesAt, if_neg]
  · rfl
  · cases behind with
    | nil => simp
    | cons x behind => simpa using h x rfl

theorem Takes.notAhead (h : ∀ x ∈ rest.head?, p x = false) :
    Takes (.notAhead p) ⟨behind, rest⟩ caps ⟨behind, rest⟩ caps := by
  rw [Takes, matchesAt, if_neg]
  · rfl
  · cases rest with
    | nil => simp
    | cons x rest => simpa using h x rfl

/-! ## Searches -/

/-- No match starts at a place of the text before the rest. -/
def NoneBefore (r : Regex γ) (before after : List Char) : Prop :=
  ∀ k < before.length, matchesAt r (⟨(before.take k).reverse, before.drop k ++ after⟩, []) = []

instance (before after : List Char) : Decidable (NoneBefore r before after) :=
  inferInstanceAs (Decidable (∀ k < before.length, _ = []))

theorem searchFrom_skip {before after : List Char} (behind : List Char)
    (h : ∀ k < before.length,
      matchesAt r (⟨(before.take k).reverse ++ behind, before.drop k ++ after⟩, []) = []) :
    searchFrom r behind (before ++ after) = searchFrom r (before.reverse ++ behind) after := by
  induction before generalizing behind with
  | nil => rfl
  | cons x before ih =>
      have hhere := h 0 (Nat.succ_pos _)
      have hlater := ih (x :: behind) fun k hk => ?_
      · have hskip : (matchesAt r (⟨behind, x :: (before ++ after)⟩, [])).head? = none := by
          rw [List.head?_eq_none_iff]
          exact hhere
        rw [List.cons_append, searchFrom, hskip]
        dsimp only
        rw [hlater, List.reverse_cons, List.append_assoc]
        rfl
      · have hnext := h (k + 1) (Nat.succ_lt_succ hk)
        rw [List.take_succ_cons, List.reverse_cons, List.append_assoc, List.drop_succ_cons] at hnext
        exact hnext

/-- The leftmost match. -/
theorem search_eq {before after : List Char} (hnone : NoneBefore r before after)
    (h : Takes r ⟨before.reverse, after⟩ [] c' caps') :
    search r (before ++ after) = some caps' := by
  have hskip := @searchFrom_skip _ r before after [] fun k hk => by
    rw [List.append_nil]
    exact hnone k hk
  rw [List.append_nil] at hskip
  rw [search, hskip]
  rw [Takes] at h
  cases after with
  | nil => rw [searchFrom, h]; rfl
  | cons x after => rw [searchFrom, h]

end Regex

end Foundation
