import Qasedak.Backup.Staging
import Mathlib.Data.List.DropRight

/-! # The list of the checksums, written and read

The list has one line for a file. The reader splits a path at its line breaks, strips it and drops
the asterisks before it, so that it reads back the paths without any of these. -/

namespace Qasedak.Backup

open Foundation Payments Store

/-! ## Paths -/

section Paths

variable {path : List FileName} {name : FileName}

theorem mem_asPosix {c : NameChar} (h : c ∈ asPosix path) :
    c = slash ∨ ∃ part ∈ path, c ∈ part := by
  induction path with
  | nil => cases h
  | cons part path ih =>
      cases path with
      | nil =>
          rw [asPosix, List.intercalate_singleton] at h
          exact Or.inr ⟨part, List.mem_singleton_self part, h⟩
      | cons next path =>
          rw [asPosix, List.intercalate_cons_cons] at h
          simp only [List.mem_append, List.mem_singleton] at h
          rcases h with (h | h) | h
          · exact Or.inr ⟨part, List.mem_cons_self, h⟩
          · exact Or.inl h
          · obtain hslash | ⟨other, hother, hc⟩ := ih h
            · exact Or.inl hslash
            · exact Or.inr ⟨other, List.mem_cons_of_mem part hother, hc⟩

theorem mem_asPosix_of_mem {part : FileName} {c : NameChar} (hpart : part ∈ path) (hc : c ∈ part) :
    c ∈ asPosix path := by
  induction path with
  | nil => cases hpart
  | cons first path ih =>
      cases path with
      | nil =>
          rw [asPosix, List.intercalate_singleton, ← List.mem_singleton.mp hpart]
          exact hc
      | cons next path =>
          rw [asPosix, List.intercalate_cons_cons]
          rcases List.mem_cons.mp hpart with rfl | hpart
          · exact List.mem_append_left _ (List.mem_append_left _ hc)
          · exact List.mem_append_right _ (ih hpart)

theorem length_asPosix (path : List FileName) :
    (asPosix path).length = (path.map List.length).sum + (path.length - 1) := by
  induction path with
  | nil => rfl
  | cons part path ih =>
      cases path with
      | nil => simp [asPosix]
      | cons next path =>
          rw [asPosix, List.intercalate_cons_cons, List.length_append, List.length_append]
          change part.length + 1 + (asPosix (next :: path)).length = _
          rw [ih]
          simp only [List.map_cons, List.sum_cons, List.length_cons]
          omega

/-- A name does not grow when it is read as a path. -/
theorem length_asPosix_pathParts (name : FileName) :
    (asPosix (pathParts name)).length ≤ name.length := by
  have hwhole : asPosix (name.splitOn slash) = name := List.intercalate_splitOn slash
  have hsub : (pathParts name).Sublist (name.splitOn slash) := List.filter_sublist
  have hsum := (hsub.map List.length).sum_le_sum fun _ _ => Nat.zero_le _
  have hcount := hsub.length_le
  have hlength := length_asPosix (name.splitOn slash)
  rw [hwhole] at hlength
  rw [length_asPosix, hlength]
  omega

theorem mem_asPosix_pathParts {c : NameChar} (h : c ∈ asPosix (pathParts name)) :
    c = slash ∨ c ∈ name := by
  obtain hslash | ⟨part, hpart, hc⟩ := mem_asPosix h
  · exact Or.inl hslash
  · have hwhole : asPosix (name.splitOn slash) = name := List.intercalate_splitOn slash
    refine Or.inr ?_
    rw [← hwhole]
    exact mem_asPosix_of_mem (List.mem_of_mem_filter hpart) hc

/-- The parts of a path of valid names are these names. -/
theorem pathParts_asPosix (hne : path ≠ []) (h : ∀ part ∈ path, ValidPart part) :
    pathParts (asPosix path) = path := by
  have hsplit : (asPosix path).splitOn slash = path :=
    List.splitOn_intercalate slash (fun part hpart => (h part hpart).2.1) hne
  rw [pathParts, hsplit, List.filter_eq_self]
  intro part hpart
  obtain ⟨hempty, -, -, hdot, -⟩ := h part hpart
  simp [hempty, hdot]

/-- And it is safe. -/
theorem safe_asPosix (hne : path ≠ []) (h : ∀ part ∈ path, ValidPart part) :
    detectPathTraversal (asPosix path) = false := by
  have hparts : ofText ['.', '.'] ∉ path := fun hmem => (h _ hmem).2.2.2.2 rfl
  have habsolute : isAbsolute (asPosix path) = false := by
    obtain ⟨part, rest, rfl⟩ := List.exists_cons_of_ne_nil hne
    obtain ⟨hempty, hslash, -⟩ := h part List.mem_cons_self
    obtain ⟨c, cs, rfl⟩ := List.exists_cons_of_ne_nil hempty
    have hhead : (asPosix ((c :: cs) :: rest)).head? = some c := by
      cases rest with
      | nil => rfl
      | cons next rest => rfl
    have hc : c ≠ slash := by
      rintro rfl
      exact hslash List.mem_cons_self
    rw [isAbsolute, hhead]
    simpa using hc
  rw [detectPathTraversal, habsolute, pathParts_asPosix hne h]
  simpa using hparts

end Paths

/-! ## Stripped texts -/

section Strip

variable {p : Char → Bool} {cs : List Char}

/-- A text is its stripped text between characters that are stripped. -/
theorem exists_stripped (p : Char → Bool) (cs : List Char) :
    ∃ before after, cs = before ++ stripChars p cs ++ after ∧
      (∀ c ∈ before, p c = true) ∧ ∀ c ∈ after, p c = true := by
  refine ⟨cs.takeWhile p, (cs.dropWhile p).rtakeWhile p, ?_, fun c hc => List.mem_takeWhile_imp hc,
    fun c hc => List.mem_rtakeWhile_imp hc⟩
  have hright : stripChars p cs ++ (cs.dropWhile p).rtakeWhile p = cs.dropWhile p :=
    List.rdropWhile_append_rtakeWhile
  rw [List.append_assoc, hright, List.takeWhile_append_dropWhile]

/-- What is stripped before and after a text that starts and ends with other characters. -/
theorem stripChars_between (before : List Char) {text after : List Char}
    (hbefore : ∀ c ∈ before, p c = true) (hafter : ∀ c ∈ after, p c = true)
    (hhead : ∀ c ∈ text.head?, p c = false) (hlast : ∀ c ∈ text.getLast?, p c = false) :
    stripChars p (before ++ text ++ after) = text := by
  cases text with
  | nil =>
      have hall : ∀ c ∈ before ++ after, p c = true := by
        intro c hc
        exact (List.mem_append.mp hc).elim (hbefore c) (hafter c)
      rw [List.append_nil, stripChars, List.dropWhile_eq_nil_iff.mpr hall]
      rfl
  | cons c text =>
      have hc : p c = false := hhead c rfl
      have hdrop : (before ++ (c :: text) ++ after).dropWhile p = c :: text ++ after := by
        rw [List.append_assoc, List.dropWhile_append_of_pos hbefore]
        simp [hc]
      have hself : ((c :: text).reverse).dropWhile p = (c :: text).reverse := by
        obtain ⟨last, rest, hrev⟩ := List.exists_cons_of_ne_nil
          (List.reverse_ne_nil_iff.mpr (List.cons_ne_nil c text))
        have hend : p last = false := by
          apply hlast
          rw [← List.head?_reverse, hrev]
          rfl
        rw [hrev, List.dropWhile_cons, if_neg (by simp [hend])]
      rw [stripChars, hdrop, List.reverse_append,
        List.dropWhile_append_of_pos fun x hx => hafter x (List.mem_reverse.mp hx), hself,
        List.reverse_reverse]

theorem cleanRel_isInfix (rel : List Char) : cleanRel rel <:+: rel := by
  obtain ⟨before, after, hrel, -, -⟩ := exists_stripped isSpace rel
  have hsuffix : cleanRel rel <:+ stripChars isSpace rel := List.dropWhile_suffix _
  exact hsuffix.isInfix.trans ⟨before, after, hrel.symm⟩

end Strip

/-! ## Lines -/

theorem splitlines_universalNewlines (cs : List Char) :
    splitlines (universalNewlines cs) = splitlines cs := by
  have hbreak (c : Char) (hc : isLineBreak c = true) (hreturn : c ≠ '\r') (rest : List Char) :
      splitlines (c :: rest) = [] :: splitlines rest := by
    rw [splitlines.eq_3 c rest fun ds h _ => hreturn h, if_pos hc]
  induction cs using splitlines.induct with
  | case1 => rfl
  | case2 cs ih =>
      rw [universalNewlines, splitlines.eq_2, hbreak '\n' (by decide) (by decide), ih]
  | case3 c cs hcrlf hc ih =>
      rw [universalNewlines.eq_3 c cs hcrlf, splitlines.eq_3 c cs hcrlf, if_pos hc]
      split
      · rw [hbreak '\n' (by decide) (by decide), ih]
      · rename_i hreturn
        rw [hbreak c hc hreturn, ih]
  | case4 c cs hcrlf hc hnone ih =>
      cases cs with
      | nil =>
          rw [Bool.not_eq_true] at hc
          rw [universalNewlines.eq_3 c [] hcrlf, if_neg (ne_return hc)]
          rfl
      | cons d cs => exact absurd hnone (splitlines_ne_nil d cs)
  | case5 c cs hcrlf hc line rest hsome ih =>
      rw [Bool.not_eq_true] at hc
      rw [universalNewlines.eq_3 c cs hcrlf, if_neg (ne_return hc), splitlines_cons hc hsome,
        splitlines_cons hc (ih.trans hsome)]

theorem not_isLineBreak_of_mem_splitlines {cs line : List Char} (h : line ∈ splitlines cs) :
    ∀ c ∈ line, isLineBreak c = false := by
  induction cs using splitlines.induct generalizing line with
  | case1 => cases h
  | case2 cs ih =>
      rw [splitlines.eq_2] at h
      rcases List.mem_cons.mp h with rfl | h
      · intro x hx
        cases hx
      · exact ih h
  | case3 c cs hcrlf hc ih =>
      rw [splitlines.eq_3 c cs hcrlf, if_pos hc] at h
      rcases List.mem_cons.mp h with rfl | h
      · intro x hx
        cases hx
      · exact ih h
  | case4 c cs hcrlf hc hnone ih =>
      rw [splitlines.eq_3 c cs hcrlf, if_neg hc, hnone] at h
      rw [List.mem_singleton.mp h]
      simpa using hc
  | case5 c cs hcrlf hc first rest hsome ih =>
      rw [splitlines.eq_3 c cs hcrlf, if_neg hc, hsome] at h
      rw [hsome] at ih
      rcases List.mem_cons.mp h with rfl | h
      · intro x hx
        rcases List.mem_cons.mp hx with rfl | hx
        · simpa using hc
        · exact ih List.mem_cons_self x hx
      · exact ih (List.mem_cons_of_mem first h)

/-- A line without breaks in it is one line. -/
theorem splitlines_single {line : List Char} (hne : line ≠ [])
    (h : ∀ c ∈ line, isLineBreak c = false) : splitlines (line ++ ['\n']) = [line] := by
  induction line with
  | nil => exact absurd rfl hne
  | cons c line ih =>
      have hc := h c List.mem_cons_self
      cases line with
      | nil =>
          rw [List.singleton_append, splitlines.eq_3 c ['\n'] fun ds hreturn _ =>
            absurd hreturn (ne_return hc), if_neg (by simp [hc])]
          rfl
      | cons d line =>
          exact splitlines_cons hc (ih (List.cons_ne_nil d line) fun x hx =>
            h x (List.mem_cons_of_mem c hx))

/-- The lines of some texts that each end with a newline. -/
theorem splitlines_flatten (texts : List (List Char)) :
    splitlines (texts.map (· ++ ['\n'])).flatten =
      texts.flatMap fun t => splitlines (t ++ ['\n']) := by
  induction texts with
  | nil => rfl
  | cons t texts ih =>
      rw [List.map_cons, List.flatten_cons, List.append_assoc, List.singleton_append,
        splitlines_newline, ih, List.flatMap_cons]

/-! ## One line -/

section Line

variable {digest rel : List Char}

theorem text?_eq_some_iff {name : FileName} {cs : List Char} :
    text? name = some cs ↔ name = ofText cs := by
  induction name generalizing cs with
  | nil => cases cs <;> simp [text?, ofText]
  | cons c name ih =>
      cases c with
      | escaped byte => cases cs <;> simp [text?, ofText]
      | char c =>
          rw [text?, Option.map_eq_some_iff]
          constructor
          · rintro ⟨rest, hrest, rfl⟩
            rw [ih.mp hrest]
            rfl
          · intro h
            cases cs with
            | nil => cases h
            | cons d ds =>
                obtain ⟨hc, hrest⟩ := List.cons.inj h
                cases hc
                exact ⟨ds, ih.mpr hrest, rfl⟩

theorem hex_facts {c : Char} (h : c.isDigit ∨ ('a' ≤ c ∧ c ≤ 'f')) :
    isSpace c = false ∧ isLineBreak c = false := by
  have hrange : 48 ≤ c.toNat ∧ c.toNat ≤ 102 := by
    rcases h with h | ⟨ha, hf⟩
    · have : 48 ≤ c.toNat ∧ c.toNat ≤ 57 := by
        simpa [Char.isDigit, UInt32.le_iff_toNat_le] using h
      omega
    · have ha' : 97 ≤ c.toNat := ha
      have hf' : c.toNat ≤ 102 := hf
      omega
  constructor
  · simp only [isSpace, Bool.or_eq_false_iff, Bool.and_eq_false_iff, decide_eq_false_iff_not,
      beq_eq_false_iff_ne]
    omega
  · simp only [isLineBreak, Bool.or_eq_false_iff, Bool.and_eq_false_iff, decide_eq_false_iff_not,
      beq_eq_false_iff_ne]
    omega

/-- A line without a path is stripped to its digest. -/
theorem strip_blank_line (hdigest : ∀ c ∈ digest, isSpace c = false)
    (hrel : stripChars isSpace rel = []) :
    stripChars isSpace (digest ++ ' ' :: ' ' :: rel) = digest := by
  obtain ⟨before, after, hparts, hbefore, hafter⟩ := exists_stripped isSpace rel
  have hspaces : ∀ c ∈ ' ' :: ' ' :: rel, isSpace c = true := by
    intro c hc
    rw [hparts, hrel, List.append_nil] at hc
    simp only [List.mem_cons, List.mem_append] at hc
    rcases hc with rfl | rfl | hc | hc
    · rfl
    · rfl
    · exact hbefore c hc
    · exact hafter c hc
  exact stripChars_between [] nofun hspaces
    (fun c hc => hdigest c (List.mem_of_mem_head? hc))
    (fun c hc => hdigest c (List.mem_of_mem_getLast? hc))

/-- Of a line with a path, the digest and the stripped path are read. -/
theorem splitLine_line (hne : digest ≠ []) (hdigest : ∀ c ∈ digest, isSpace c = false)
    (hrel : stripChars isSpace rel ≠ []) :
    splitLine (stripChars isSpace (digest ++ ' ' :: ' ' :: rel)) =
      (digest, stripChars isSpace rel) := by
  obtain ⟨before, after, hparts, hbefore, hafter⟩ := exists_stripped isSpace rel
  have hhead : ∀ c ∈ (stripChars isSpace rel).head?, isSpace c = false := head?_stripChars
  have hstrip : stripChars isSpace (digest ++ ' ' :: ' ' :: rel) =
      digest ++ (' ' :: ' ' :: before ++ stripChars isSpace rel) := by
    have hwhole : digest ++ ' ' :: ' ' :: rel =
        [] ++ (digest ++ (' ' :: ' ' :: before ++ stripChars isSpace rel)) ++ after := by
      conv_lhs => rw [hparts]
      simp
    rw [hwhole]
    refine stripChars_between [] nofun hafter (fun c hc => ?_) (fun c hc => ?_)
    · obtain ⟨d, ds, rfl⟩ := List.exists_cons_of_ne_nil hne
      obtain rfl : d = c := by simpa using hc
      exact hdigest d List.mem_cons_self
    · rw [List.getLast?_append_of_ne_nil _ (by simp), List.getLast?_append_of_ne_nil _ hrel] at hc
      exact getLast?_stripChars c hc
  have hspaces : ∀ c ∈ ' ' :: ' ' :: before, isSpace c = true := by
    intro c hc
    simp only [List.mem_cons] at hc
    rcases hc with rfl | rfl | hc
    · rfl
    · rfl
    · exact hbefore c hc
  have hfirst : ∀ c ∈ digest, (!isSpace c) = true := fun c hc => by simp [hdigest c hc]
  have hrest : (stripChars isSpace rel).dropWhile isSpace = stripChars isSpace rel := by
    obtain ⟨d, ds, hd⟩ := List.exists_cons_of_ne_nil hrel
    have hspace : isSpace d = false := hhead d (by rw [hd]; rfl)
    rw [hd, List.dropWhile_cons, if_neg (by simp [hspace])]
  rw [hstrip, splitLine, List.takeWhile_append_of_pos hfirst, List.dropWhile_append_of_pos hfirst]
  have hstop : (' ' :: ' ' :: before ++ stripChars isSpace rel).takeWhile (!isSpace ·) = [] := rfl
  have hkeep : (' ' :: ' ' :: before ++ stripChars isSpace rel).dropWhile (!isSpace ·) =
      ' ' :: ' ' :: before ++ stripChars isSpace rel := rfl
  rw [hstop, hkeep, List.append_nil, List.dropWhile_append_of_pos hspaces, hrest]

theorem cleanRel_strip (rel : List Char) : cleanRel (stripChars isSpace rel) = cleanRel rel := by
  rw [cleanRel, stripChars_eq_self head?_stripChars getLast?_stripChars, cleanRel]

/-- What is read of a line that was written. -/
theorem checksumLine_written {checksums : Checksums} (hne : digest ≠ [])
    (hdigest : ∀ c ∈ digest, isSpace c = false) :
    checksumLine checksums (digest ++ ' ' :: ' ' :: rel) =
      if stripChars isSpace rel = [] then .error .invalidLine
      else if detectPathTraversal (ofText (cleanRel rel)) then .error .unsafeLine
      else .ok (setItem (ofText (cleanRel rel)) digest checksums) := by
  unfold checksumLine
  by_cases hrel : stripChars isSpace rel = []
  · have hall : ∀ c ∈ digest, (!isSpace c) = true := fun c hc => by simp [hdigest c hc]
    have hnone : (splitLine digest).2 = [] := by
      rw [splitLine, List.dropWhile_eq_nil_iff.mpr hall]
      rfl
    simp only [strip_blank_line hdigest hrel, if_neg hne, hnone, if_true, hrel]
  · have hline : stripChars isSpace (digest ++ ' ' :: ' ' :: rel) ≠ [] := by
      intro hempty
      have hsplit := splitLine_line hne hdigest hrel
      rw [hempty] at hsplit
      exact hne (Prod.mk.inj hsplit).1.symm
    simp only [if_neg hline, splitLine_line hne hdigest hrel, if_neg hrel, cleanRel_strip]

end Line

end Qasedak.Backup
