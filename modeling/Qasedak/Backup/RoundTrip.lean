import Qasedak.Backup.Packing

/-! # A backup that is made and read again

The archive of a staging directory is accepted, and complete, exactly where the lines of its list
can hold the paths of its files. -/

namespace Qasedak.Backup

open Foundation Payments Store

/-! ## What is asked of the directory -/

/-- The text of a path. -/
def relOf (path : List FileName) : List Char := (text? (asPosix path)).getD []

/-- The path is a text. -/
def Encodable (path : List FileName) : Prop := text? (asPosix path) ≠ none

/-- A path that a line of the list gives back: there is no line break in it, no white space at its
start or end and no asterisk at its start. -/
structure PlainRel (rel : List Char) : Prop where
  no_break : ∀ c ∈ rel, isLineBreak c = false
  head : ∀ c ∈ rel.head?, isSpace c = false ∧ c ≠ '*'
  last : ∀ c ∈ rel.getLast?, isSpace c = false

instance (rel : List Char) : Decidable (PlainRel rel) :=
  decidable_of_iff ((∀ c ∈ rel, isLineBreak c = false) ∧
    (∀ c ∈ rel.head?, isSpace c = false ∧ c ≠ '*') ∧ ∀ c ∈ rel.getLast?, isSpace c = false)
    ⟨fun h => ⟨h.1, h.2.1, h.2.2⟩, fun h => ⟨h.no_break, h.head, h.last⟩⟩

/-- The size of the listed files and of the list itself. -/
def packedSize (files : List (List FileName × Bytes)) : ℕ :=
  (files.map fun f => f.2.length + (67 + (utf8 (relOf f.1)).length)).sum

/-- The list, or else the manifest, that a directory holds itself names its files with their
digests. -/
def HoldsPackage (py : Python) (files : FileTree) : Prop :=
  (∃ child, files [child] = some .dir ∧ files [child, manifestName] ≠ none) ∧
    ∀ child, files [child] = some .dir → files [child, manifestName] ≠ none →
      ∃ checksums, Verified py (files.below [child]) checksums ∧
        Complete py (files.below [child]) checksums

/-- The directory has a manifest that is read, and all its files have plain paths. -/
def HoldsPlainFiles (py : Python) (entries : List StagedEntry) : Prop :=
  (∃ content manifest, fileTree entries [manifestName] = some (.file content) ∧
    manifestOf py content = some manifest) ∧ ∀ f ∈ listedFiles entries, PlainRel (relOf f.1)

/-- What a staging directory must be for its archive to be accepted. -/
structure Packable (py : Python) (maxSize : ℕ) (tree : StagingTree) : Prop where
  packs : Packs [] tree.entries
  listIsFile : ListIsFile tree.entries
  encodable : ∀ f ∈ listedFiles tree.entries, Encodable f.1
  size_le : packedSize (listedFiles tree.entries) ≤ maxSize
  package : if fileTree tree.entries [manifestName] = none then
      HoldsPackage py (fileTree tree.entries)
    else HoldsPlainFiles py tree.entries

/-- Whichever payload is found, it is verified, and complete. -/
def PackageVerifies (py : Python) (files : FileTree) : Prop :=
  (∃ root, PayloadRoot files root) ∧ ∀ root, PayloadRoot files root →
    ∃ checksums, verifyChecksums py (files.below root) = .ok checksums ∧
      Complete py (files.below root) checksums

/-- The archive that is made of the directory is extracted and verified, and complete. -/
def RoundTrips (py : Python) (maxSize : ℕ) (tree : StagingTree) : Prop :=
  ∃ members files, makeArchive py tree = .ok members ∧
    safeExtractArchive maxSize members = .ok files ∧ PackageVerifies py files

/-! ## The written list -/

section Written

variable {py : Python} {files : List (List FileName × Bytes)} {text : List Char}

/-- A line of the list, without its newline. -/
def lineOf (py : Python) (f : List FileName × Bytes) : List Char :=
  py.sha256 f.2 ++ ' ' :: ' ' :: relOf f.1

theorem ofText_relOf {path : List FileName} (h : Encodable path) :
    ofText (relOf path) = asPosix path := by
  obtain ⟨rel, hrel⟩ := Option.ne_none_iff_exists'.mp h
  rw [relOf, hrel, Option.getD_some]
  exact (text?_eq_some_iff.mp hrel).symm

theorem checksumText_eq_some :
    checksumText py files = some text ↔ (∀ f ∈ files, Encodable f.1) ∧
      text = ((files.map (lineOf py)).map (· ++ ['\n'])).flatten := by
  induction files generalizing text with
  | nil =>
      change some [] = some text ↔ _
      simp [eq_comm]
  | cons f files ih =>
      have hcons : checksumText py (f :: files) =
          (text? (asPosix f.1)).bind fun rel =>
            (checksumText py files).map (checksumLineOf py f.2 rel ++ ·) := by
        simp only [checksumText, List.mapM_cons]
        cases text? (asPosix f.1) with
        | none => rfl
        | some rel =>
            cases files.mapM fun f => (text? (asPosix f.1)).map (checksumLineOf py f.2) with
            | none => rfl
            | some lines => rfl
      rw [hcons, List.forall_mem_cons, Option.bind_eq_some_iff]
      constructor
      · rintro ⟨rel, hrel, hrest⟩
        obtain ⟨rest, hlines, rfl⟩ := Option.map_eq_some_iff.mp hrest
        obtain ⟨hnamed, rfl⟩ := ih.mp hlines
        refine ⟨⟨by rw [Encodable, hrel]; simp, hnamed⟩, ?_⟩
        simp [lineOf, checksumLineOf, relOf, hrel]
      · rintro ⟨⟨hself, hnamed⟩, rfl⟩
        obtain ⟨rel, hrel⟩ := Option.ne_none_iff_exists'.mp hself
        refine ⟨rel, hrel, ?_⟩
        rw [ih.mpr ⟨hnamed, rfl⟩]
        simp [lineOf, checksumLineOf, relOf, hrel]

theorem length_utf8_hex {cs : List Char} (h : ∀ c ∈ cs, c.isDigit ∨ ('a' ≤ c ∧ c ≤ 'f')) :
    (utf8 cs).length = cs.length := by
  induction cs with
  | nil => rfl
  | cons c cs ih =>
      have hc : c.toNat < 128 := by
        rcases h c List.mem_cons_self with hdigit | ⟨-, hf⟩
        · have : 48 ≤ c.toNat ∧ c.toNat ≤ 57 := by
            simpa [Char.isDigit, UInt32.le_iff_toNat_le] using hdigit
          omega
        · have hle : c.toNat ≤ 102 := hf
          omega
      rw [utf8_cons, utf8EncodeChar_ascii hc, List.length_append,
        ih fun d hd => h d (List.mem_cons_of_mem c hd)]
      simp [Nat.add_comm]

/-- A line takes its digest, two spaces, its path and a newline. -/
theorem length_utf8_line (py : Python) (f : List FileName × Bytes) :
    (utf8 (lineOf py f ++ ['\n'])).length = 67 + (utf8 (relOf f.1)).length := by
  have hspaces : utf8 (' ' :: ' ' :: relOf f.1) = 32 :: 32 :: utf8 (relOf f.1) := by
    rw [utf8_cons, utf8_cons, utf8EncodeChar_ascii (by decide)]
    rfl
  have hnewline : (utf8 ['\n']).length = 1 := by decide
  rw [lineOf, utf8_append, utf8_append, List.length_append, List.length_append, hspaces, hnewline,
    length_utf8_hex (py.sha256_hex f.2), py.sha256_length]
  simp only [List.length_cons]
  omega

theorem length_utf8_list (files : List (List FileName × Bytes)) :
    (files.map fun f => f.2.length).sum +
      (utf8 ((files.map (lineOf py)).map (· ++ ['\n'])).flatten).length = packedSize files := by
  induction files with
  | nil => rfl
  | cons f files ih =>
      have hline := length_utf8_line py f
      rw [packedSize] at ih ⊢
      simp only [List.map_cons, List.flatten_cons, List.sum_cons] at ih ⊢
      rw [utf8_append, List.length_append, hline]
      omega

end Written

/-! ## The list that is read -/

section Read

variable {py : Python} {files : List (List FileName × Bytes)} {checksums acc : Checksums}

theorem mem_setItem {rel : FileName} {digest : List Char} {e : FileName × List Char}
    (h : e ∈ setItem rel digest acc) : e ∈ acc ∨ e.1 = rel := by
  induction acc with
  | nil => exact Or.inr (by rw [List.mem_singleton.mp h])
  | cons first acc ih =>
      rw [setItem] at h
      split_ifs at h with hkey
      · rcases List.mem_cons.mp h with rfl | h
        · exact Or.inr hkey
        · exact Or.inl (List.mem_cons_of_mem first h)
      · rcases List.mem_cons.mp h with rfl | h
        · exact Or.inl List.mem_cons_self
        · exact (ih h).imp (List.mem_cons_of_mem first) id

theorem setItem_of_notMem {rel : FileName} {digest : List Char} (h : rel ∉ acc.map Prod.fst) :
    setItem rel digest acc = acc ++ [(rel, digest)] := by
  induction acc with
  | nil => rfl
  | cons first acc ih =>
      rw [List.map_cons, List.mem_cons, not_or] at h
      rw [setItem, if_neg (Ne.symm h.1), ih h.2]
      rfl

theorem dropWhile_isInfix (p : Char → Bool) (cs : List Char) : cs.dropWhile p <:+: cs :=
  (List.dropWhile_suffix p).isInfix

theorem stripChars_isInfix (p : Char → Bool) (cs : List Char) : stripChars p cs <:+: cs := by
  obtain ⟨before, after, hcs, -, -⟩ := exists_stripped p cs
  exact ⟨before, after, hcs.symm⟩

/-- The path of a line is a part of it. -/
theorem checksumLine_ok {line : List Char} (h : checksumLine acc line = .ok checksums) :
    ∀ e ∈ checksums, e ∈ acc ∨ ∃ cs, e.1 = ofText cs ∧ cs <:+: line := by
  simp only [checksumLine] at h
  split_ifs at h with hblank hnone hpath
  · cases h
    exact fun e he => Or.inl he
  · cases h
    intro e he
    refine (mem_setItem he).imp id fun hkey => ⟨_, hkey, ?_⟩
    exact (cleanRel_isInfix _).trans ((dropWhile_isInfix _ _).trans ((dropWhile_isInfix _ _).trans
      (stripChars_isInfix isSpace line)))

/-- So is every path of a list, of one of its lines. -/
theorem checksumLines_ok {lines : List (List Char)}
    (h : lines.foldlM checksumLine acc = .ok checksums) :
    ∀ e ∈ checksums, e ∈ acc ∨ ∃ line ∈ lines, ∃ cs, e.1 = ofText cs ∧ cs <:+: line := by
  induction lines generalizing acc with
  | nil =>
      cases h
      exact fun e he => Or.inl he
  | cons line lines ih =>
      rw [List.foldlM_cons] at h
      cases hline : checksumLine acc line with
      | error err =>
          rw [hline] at h
          cases h
      | ok next =>
          rw [hline] at h
          intro e he
          rcases ih h e he with hnext | ⟨line', hline', hcs⟩
          · exact (checksumLine_ok hline e hnext).imp id fun hcs =>
              ⟨line, List.mem_cons_self, hcs⟩
          · exact Or.inr ⟨line', List.mem_cons_of_mem line hline', hcs⟩

theorem sha256_ne_nil (content : Bytes) : py.sha256 content ≠ [] := by
  intro h
  have hlength := py.sha256_length content
  rw [h] at hlength
  cases hlength

theorem sha256_noSpace (content : Bytes) : ∀ c ∈ py.sha256 content, isSpace c = false :=
  fun c hc => (hex_facts (py.sha256_hex content c hc)).1

/-- The path that is read of the line of a file. -/
theorem checksumLine_lineOf {f : List FileName × Bytes} :
    checksumLine acc (lineOf py f) =
      if stripChars isSpace (relOf f.1) = [] then .error .invalidLine
      else if detectPathTraversal (ofText (cleanRel (relOf f.1))) then .error .unsafeLine
      else .ok (setItem (ofText (cleanRel (relOf f.1))) (py.sha256 f.2) acc) :=
  checksumLine_written (sha256_ne_nil f.2) (sha256_noSpace f.2)

theorem checksumLines_lineOf (h : (files.map (lineOf py)).foldlM checksumLine acc = .ok checksums) :
    ∀ e ∈ checksums, e ∈ acc ∨ ∃ f ∈ files, e.1 = ofText (cleanRel (relOf f.1)) := by
  induction files generalizing acc with
  | nil =>
      cases h
      exact fun e he => Or.inl he
  | cons f files ih =>
      rw [List.map_cons, List.foldlM_cons, checksumLine_lineOf] at h
      split_ifs at h with hblank hpath
      · cases h
      · cases h
      · intro e he
        rcases ih h e he with hnext | ⟨g, hg, hkey⟩
        · exact (mem_setItem hnext).imp id fun hkey => ⟨f, List.mem_cons_self, hkey⟩
        · exact Or.inr ⟨g, List.mem_cons_of_mem f hg, hkey⟩

/-- A line without breaks is one line of the list. -/
theorem splitlines_lineOf {f : List FileName × Bytes}
    (h : ∀ c ∈ relOf f.1, isLineBreak c = false) :
    splitlines (lineOf py f ++ ['\n']) = [lineOf py f] := by
  refine splitlines_single ?_ fun c hc => ?_
  · exact List.append_ne_nil_of_left_ne_nil (sha256_ne_nil f.2) _
  · rw [lineOf, List.mem_append, List.mem_cons, List.mem_cons] at hc
    rcases hc with hc | rfl | rfl | hc
    · exact (hex_facts (py.sha256_hex f.2 c hc)).2
    · rfl
    · rfl
    · exact h c hc

theorem splitlines_lines (h : ∀ f ∈ files, ∀ c ∈ relOf f.1, isLineBreak c = false) :
    splitlines ((files.map (lineOf py)).map (· ++ ['\n'])).flatten = files.map (lineOf py) := by
  rw [splitlines_flatten]
  induction files with
  | nil => rfl
  | cons f files ih =>
      rw [List.map_cons, List.flatMap_cons, splitlines_lineOf (h f List.mem_cons_self),
        ih fun g hg => h g (List.mem_cons_of_mem f hg)]
      rfl

/-! ## Paths that are read back -/

theorem PlainRel.strip_eq {rel : List Char} (h : PlainRel rel) : stripChars isSpace rel = rel :=
  stripChars_eq_self (fun c hc => (h.head c hc).1) h.last

theorem PlainRel.cleanRel_eq {rel : List Char} (h : PlainRel rel) : cleanRel rel = rel := by
  rw [cleanRel, h.strip_eq]
  cases rel with
  | nil => rfl
  | cons c rel =>
      have hstar : c ≠ '*' := (h.head c rfl).2
      rw [List.dropWhile_cons, if_neg (by simpa using hstar)]

/-- A path is given back whole only if it is plain; otherwise a shorter one is. -/
theorem length_cleanRel_lt {rel : List Char} (hbreak : ∀ c ∈ rel, isLineBreak c = false)
    (h : ¬PlainRel rel) : (cleanRel rel).length < rel.length := by
  have hstrip := stripChars_isInfix isSpace rel
  have hsuffix : cleanRel rel <:+ stripChars isSpace rel := List.dropWhile_suffix _
  refine lt_of_le_of_ne (hsuffix.isInfix.trans hstrip).length_le fun hlength => h ?_
  have hclean : cleanRel rel = stripChars isSpace rel :=
    hsuffix.eq_of_length_le (hlength ▸ hstrip.length_le)
  have hwhole : stripChars isSpace rel = rel :=
    hstrip.eq_of_length_le (by rw [← hclean, hlength])
  refine ⟨hbreak, fun c hc => ⟨?_, ?_⟩, fun c hc => ?_⟩
  · exact head?_stripChars c (hwhole.symm ▸ hc)
  · rintro rfl
    rw [cleanRel, hwhole] at hclean
    have hhead := List.head?_dropWhile_not (fun c => decide (c = '*')) rel
    rw [hclean, hc] at hhead
    simp at hhead
  · exact getLast?_stripChars c (hwhole.symm ▸ hc)

/-- Of what is bad, there would always be something larger. -/
theorem forall_not_of_ascent {α : Type*} {l : List α} (bad : α → Prop) (size : α → ℕ)
    (h : ∀ a ∈ l, bad a → ∃ b ∈ l, bad b ∧ size a < size b) : ∀ a ∈ l, ¬bad a := by
  have hbound : ∀ a ∈ l, size a ≤ (l.map size).sum := fun a ha =>
    List.le_sum_of_mem (List.mem_map_of_mem ha)
  -- the induction is on how far the size of the element is from the bound
  have hnone (n : ℕ) : ∀ a ∈ l, (l.map size).sum - size a = n → ¬bad a := by
    induction n using Nat.strong_induction_on with
    | h n ih =>
        rintro a ha rfl hbad
        obtain ⟨b, hb, hbad', hlt⟩ := h a ha hbad
        have := hbound b hb
        exact ih _ (by omega) b hb rfl hbad'
  exact fun a ha => hnone _ a ha rfl

theorem plainRel_manifest : PlainRel (relOf [manifestName]) := by decide

/-- The paths that a list names have no line breaks. -/
theorem noBreak_of_named {lines : List (List Char)} {path : List FileName}
    (hread : lines.foldlM checksumLine [] = .ok checksums)
    (hlines : ∀ line ∈ lines, ∀ c ∈ line, isLineBreak c = false)
    {e : FileName × List Char} (he : e ∈ checksums) (hpath : pathParts e.1 = path)
    (hnamed : Encodable path) : ∀ c ∈ relOf path, isLineBreak c = false := by
  intro c hc
  have hmem : .char c ∈ asPosix (pathParts e.1) := by
    rw [hpath, ← ofText_relOf hnamed]
    exact List.mem_map_of_mem hc
  rcases mem_asPosix_pathParts hmem with hslash | hmem
  · cases hslash
    rfl
  · obtain ⟨line, hline, cs, hkey, hpart⟩ :=
      (checksumLines_ok hread e he).resolve_left List.not_mem_nil
    rw [hkey] at hmem
    obtain ⟨d, hd, hdc⟩ := List.mem_map.mp hmem
    cases hdc
    exact hlines line hline c (hpart.subset hd)

/-- Where the list names every file, all their paths are plain: one that is not is named by the line
of a longer one that is not. -/
theorem plainRel_of_named (hvalid : ∀ f ∈ files, ValidPath f.1)
    (hnamed : ∀ f ∈ files, Encodable f.1)
    (hread : (splitlines ((files.map (lineOf py)).map (· ++ ['\n'])).flatten).foldlM
      checksumLine [] = .ok checksums)
    (hcover : ∀ f ∈ files, f.1 ≠ [manifestName] → ∃ e ∈ checksums, pathParts e.1 = f.1) :
    ∀ f ∈ files, PlainRel (relOf f.1) := by
  have hbreak : ∀ f ∈ files, ∀ c ∈ relOf f.1, isLineBreak c = false := by
    intro f hf
    by_cases hmanifest : f.1 = [manifestName]
    · rw [hmanifest]
      exact plainRel_manifest.no_break
    · obtain ⟨e, he, hpath⟩ := hcover f hf hmanifest
      exact noBreak_of_named hread (fun line => not_isLineBreak_of_mem_splitlines) he hpath
        (hnamed f hf)
  rw [splitlines_lines hbreak] at hread
  refine fun f hf => not_not.mp (forall_not_of_ascent (fun f => ¬PlainRel (relOf f.1))
    (fun f => (relOf f.1).length) (fun f hf hbad => ?_) f hf)
  have hmanifest : f.1 ≠ [manifestName] := by
    intro hpath
    rw [hpath] at hbad
    exact hbad plainRel_manifest
  obtain ⟨e, he, hpath⟩ := hcover f hf hmanifest
  obtain ⟨m, hm, hkey⟩ := (checksumLines_lineOf hread e he).resolve_left List.not_mem_nil
  have hbad' : ¬PlainRel (relOf m.1) := by
    intro hplain
    have hwhole : e.1 = asPosix m.1 := by
      rw [hkey, hplain.cleanRel_eq, ofText_relOf (hnamed m hm)]
    rw [hwhole, pathParts_asPosix (hvalid m hm).1 (hvalid m hm).2] at hpath
    rw [← hpath] at hbad
    exact hbad hplain
  refine ⟨m, hm, hbad', ?_⟩
  calc (relOf f.1).length = (asPosix (pathParts e.1)).length := by
        rw [hpath, ← ofText_relOf (hnamed f hf), ofText, List.length_map]
    _ ≤ e.1.length := length_asPosix_pathParts e.1
    _ = (cleanRel (relOf m.1)).length := by rw [hkey, ofText, List.length_map]
    _ < (relOf m.1).length := length_cleanRel_lt (hbreak m hm) hbad'

theorem asPosix_ne_nil {path : List FileName} (h : ValidPath path) : asPosix path ≠ [] := by
  intro hnil
  have hparts := pathParts_asPosix h.1 h.2
  rw [hnil] at hparts
  exact h.1 hparts.symm

/-- Plain paths are read back as they are. -/
theorem checksumLines_plain (py : Python) (acc : Checksums) (hvalid : ∀ f ∈ files, ValidPath f.1)
    (hnamed : ∀ f ∈ files, Encodable f.1) (hplain : ∀ f ∈ files, PlainRel (relOf f.1))
    (hkeys : (acc.map Prod.fst ++ files.map fun f => asPosix f.1).Nodup) :
    (files.map (lineOf py)).foldlM checksumLine acc =
      .ok (acc ++ files.map fun f => (asPosix f.1, py.sha256 f.2)) := by
  induction files generalizing acc with
  | nil =>
      simp [pure, Except.pure]
  | cons f files ih =>
      have hf := hplain f List.mem_cons_self
      have hwhole := ofText_relOf (hnamed f List.mem_cons_self)
      have hpath := hvalid f List.mem_cons_self
      have hne : relOf f.1 ≠ [] := by
        intro hnil
        rw [hnil] at hwhole
        exact asPosix_ne_nil hpath hwhole.symm
      have hnew : asPosix f.1 ∉ acc.map Prod.fst := by
        rw [List.nodup_append] at hkeys
        exact fun hmem => hkeys.2.2 _ hmem _ List.mem_cons_self rfl
      have hnext := ih (acc ++ [(asPosix f.1, py.sha256 f.2)])
        (fun g hg => hvalid g (List.mem_cons_of_mem f hg))
        (fun g hg => hnamed g (List.mem_cons_of_mem f hg))
        (fun g hg => hplain g (List.mem_cons_of_mem f hg)) (by simpa using hkeys)
      rw [List.map_cons, List.foldlM_cons, checksumLine_lineOf, hf.strip_eq, if_neg hne,
        hf.cleanRel_eq, hwhole, safe_asPosix hpath.1 hpath.2, if_neg (by simp),
        setItem_of_notMem hnew]
      change (files.map (lineOf py)).foldlM checksumLine _ = _
      rw [hnext, List.map_cons, List.append_assoc]
      rfl

end Read

/-! ## The directory with its list -/

section Whole

variable {py : Python} {maxSize : ℕ} {entries : List StagedEntry} {files : FileTree}
  {text : List Char} {checksums : Checksums}

theorem mem_listedFiles (hnodup : (entries.map StagedEntry.path).Nodup)
    (hvalid : ∀ e ∈ entries, ValidPath e.path) {path : List FileName} {content : Bytes} :
    (path, content) ∈ listedFiles entries ↔
      path ≠ [] ∧ path ≠ [checksumsName] ∧ fileTree entries path = some (.file content) := by
  rw [listedFiles, List.mem_filterMap]
  constructor
  · rintro ⟨e, he, hentry⟩
    cases hnode : e.node with
    | file inode c =>
        simp only [hnode] at hentry
        split_ifs at hentry with hlist
        cases hentry
        refine ⟨(hvalid e he).1, hlist, ?_⟩
        rw [fileTree_of_mem hnodup he (hvalid e he).1, StagedEntry.node?, hnode]
    | dir | symlink | device | socket => simp [hnode] at hentry
  · rintro ⟨hroot, hlist, hfile⟩
    obtain ⟨e, he, rfl, hnode?⟩ := fileTree_eq_some hroot hfile
    refine ⟨e, he, ?_⟩
    cases hnode : e.node with
    | file inode c =>
        simp only [StagedEntry.node?, hnode] at hnode?
        cases hnode?
        simp only [if_neg hlist]
    | dir | symlink | device | socket => simp [StagedEntry.node?, hnode] at hnode?

theorem paths_listedFiles (entries : List StagedEntry) :
    ((listedFiles entries).map Prod.fst).Sublist (entries.map StagedEntry.path) := by
  induction entries with
  | nil => exact List.Sublist.refl _
  | cons e entries ih =>
      rw [listedFiles] at ih ⊢
      cases hnode : e.node with
      | file inode c =>
          by_cases hlist : e.path = [checksumsName]
          · simpa [hnode, hlist] using ih.cons [checksumsName]
          · simpa [hnode, hlist] using ih
      | dir | symlink | device | socket => simpa [hnode] using ih.cons e.path

theorem validPath_listed (hvalid : ∀ e ∈ entries, ValidPath e.path) :
    ∀ f ∈ listedFiles entries, ValidPath f.1 := by
  intro f hf
  obtain ⟨e, he, hpath⟩ :=
    List.mem_map.mp ((paths_listedFiles entries).subset (List.mem_map_of_mem hf))
  rw [← hpath]
  exact hvalid e he

/-- The list that was written is what is verified. -/
theorem verified_list_iff :
    Verified py (files.set [checksumsName] (.file (utf8 text))) checksums ↔
      (∃ content manifest, files [manifestName] = some (.file content) ∧
        manifestOf py content = some manifest) ∧
      (splitlines text).foldlM checksumLine [] = .ok checksums ∧ checksums ≠ [] ∧
      Matches py (files.set [checksumsName] (.file (utf8 text))) checksums := by
  have hmanifest : files.set [checksumsName] (.file (utf8 text)) [manifestName] =
      files [manifestName] := if_neg (by decide)
  have hlist : checksumsFromFile (files.set [checksumsName] (.file (utf8 text))) =
      ((splitlines text).foldlM checksumLine []).map some := by
    simp only [checksumsFromFile, FileTree.set, if_true, checksumsOf, utf8Replace_utf8,
      splitlines_universalNewlines]
  constructor
  · rintro ⟨⟨manifest, fromFile, hread, hfile, hfound⟩, hne, hmatch⟩
    refine ⟨?_, ?_, hne, hmatch⟩
    · rw [readManifest, hmanifest] at hread
      split at hread
      · rename_i content hcontent
        split at hread
        · rename_i found hfound
          exact ⟨content, found, hcontent, hfound⟩
        · cases hread
      · cases hread
    · rw [hlist] at hfile
      cases hlines : (splitlines text).foldlM checksumLine [] with
      | error e =>
          rw [hlines] at hfile
          cases hfile
      | ok found =>
          rw [hlines] at hfile
          cases hfile
          exact congrArg _ (Option.some.inj hfound)
  · rintro ⟨⟨content, manifest, hcontent, hfound⟩, hlines, hne, hmatch⟩
    refine ⟨⟨manifest, some checksums, ?_, ?_, rfl⟩, hne, hmatch⟩
    · simp only [readManifest, hmanifest, hcontent, hfound]
    · rw [hlist, hlines]
      rfl

theorem fileTree_set_listed (hnodup : (entries.map StagedEntry.path).Nodup)
    (hvalid : ∀ e ∈ entries, ValidPath e.path) {node : Node} {f : List FileName × Bytes}
    (hf : f ∈ listedFiles entries) :
    (fileTree entries).set [checksumsName] node f.1 = some (.file f.2) := by
  obtain ⟨-, hlist, hfile⟩ := (mem_listedFiles hnodup hvalid).mp hf
  rw [FileTree.set, if_neg hlist, hfile]

/-- A list that was written verifies the files, and names all, exactly where their paths are
plain. -/
theorem verified_list (hnodup : (entries.map StagedEntry.path).Nodup)
    (hvalid : ∀ e ∈ entries, ValidPath e.path)
    (hnamed : ∀ f ∈ listedFiles entries, Encodable f.1)
    (htext : text = (((listedFiles entries).map (lineOf py)).map (· ++ ['\n'])).flatten) :
    (∃ checksums,
      Verified py ((fileTree entries).set [checksumsName] (.file (utf8 text))) checksums ∧
      Complete py ((fileTree entries).set [checksumsName] (.file (utf8 text))) checksums) ↔
      HoldsPlainFiles py entries := by
  have hpaths := validPath_listed hvalid
  constructor
  · rintro ⟨checksums, hverified, hcomplete⟩
    obtain ⟨hmanifest, hread, -⟩ := verified_list_iff.mp hverified
    refine ⟨hmanifest, plainRel_of_named hpaths hnamed (htext ▸ hread) fun f hf hne => ?_⟩
    obtain ⟨e, he, hpath, -⟩ := hcomplete f.1 f.2 (fileTree_set_listed hnodup hvalid hf) hne
      ((mem_listedFiles hnodup hvalid).mp hf).2.1
    exact ⟨e, he, hpath⟩
  · rintro ⟨⟨content, manifest, hcontent, hmanifest⟩, hplain⟩
    have hkeys : ((listedFiles entries).map fun f => asPosix f.1).Nodup := by
      have hfirst := (paths_listedFiles entries).nodup hnodup
      refine List.Nodup.map_on (fun f hf g hg hsame => ?_) hfirst.of_map
      have hpath : f.1 = g.1 := by
        rw [← pathParts_asPosix (hpaths f hf).1 (hpaths f hf).2, hsame,
          pathParts_asPosix (hpaths g hg).1 (hpaths g hg).2]
      exact List.inj_on_of_nodup_map hfirst hf hg hpath
    have hread := checksumLines_plain py [] hpaths hnamed hplain hkeys
    rw [← splitlines_lines fun f hf => (hplain f hf).no_break, ← htext] at hread
    have hlisted : ([manifestName], content) ∈ listedFiles entries :=
      (mem_listedFiles hnodup hvalid).mpr ⟨List.cons_ne_nil _ _, by decide, hcontent⟩
    refine ⟨_, verified_list_iff.mpr ⟨⟨content, manifest, hcontent, hmanifest⟩, hread, ?_, ?_⟩, ?_⟩
    · rw [List.nil_append, Ne, List.map_eq_nil_iff]
      exact List.ne_nil_of_mem hlisted
    · rintro _ he
      obtain ⟨f, hf, rfl⟩ := List.mem_map.mp he
      refine ⟨safe_asPosix (hpaths f hf).1 (hpaths f hf).2, f.2, ?_, rfl⟩
      rw [pathParts_asPosix (hpaths f hf).1 (hpaths f hf).2]
      exact fileTree_set_listed hnodup hvalid hf
    · intro path c hfile hne hlist
      rw [FileTree.set, if_neg hlist] at hfile
      have hroot : path ≠ [] := by
        rintro rfl
        cases hfile
      have hmem := (mem_listedFiles hnodup hvalid).mpr ⟨hroot, hlist, hfile⟩
      exact ⟨_, List.mem_map_of_mem hmem,
        pathParts_asPosix (hpaths _ hmem).1 (hpaths _ hmem).2, rfl⟩

/-- Beside a manifest, the payload is the directory itself. -/
theorem packageVerifies_of_manifest (h : files [manifestName] ≠ none) :
    PackageVerifies py files ↔ ∃ checksums, Verified py files checksums ∧
      Complete py files checksums := by
  have hroot (root : List FileName) : PayloadRoot files root ↔ root = [] := by
    rw [PayloadRoot, if_neg h]
  constructor
  · rintro ⟨-, hall⟩
    obtain ⟨checksums, hverified, hcomplete⟩ := hall [] ((hroot []).mpr rfl)
    exact ⟨checksums, verifyChecksums_ok_iff.mp hverified, hcomplete⟩
  · rintro ⟨checksums, hverified, hcomplete⟩
    refine ⟨⟨[], (hroot []).mpr rfl⟩, fun root h => ?_⟩
    rw [(hroot root).mp h]
    exact ⟨checksums, verifyChecksums_ok_iff.mpr hverified, hcomplete⟩

/-- Without one, the list in the directory is not read. -/
theorem packageVerifies_of_none {content : Bytes} (h : files [manifestName] = none)
    (hlist : files [checksumsName] ≠ some .dir) :
    PackageVerifies py (files.set [checksumsName] (.file content)) ↔ HoldsPackage py files := by
  have hmanifest : files.set [checksumsName] (.file content) [manifestName] = none :=
    (if_neg (by decide)).trans h
  have hbelow (child : FileName) (hchild : child ≠ checksumsName) :
      (files.set [checksumsName] (.file content)).below [child] = files.below [child] := by
    funext path
    refine if_neg fun hpath => hchild ?_
    exact (List.cons.inj hpath).1
  have hdir (child : FileName) : files.set [checksumsName] (.file content) [child] = some .dir ↔
      child ≠ checksumsName ∧ files [child] = some .dir := by
    by_cases hchild : child = checksumsName
    · simp [FileTree.set, hchild]
    · simp [FileTree.set, hchild]
  have hne (child : FileName) (hfile : files [child] = some .dir) : child ≠ checksumsName := by
    rintro rfl
    exact hlist hfile
  have hinside (child : FileName) :
      files.set [checksumsName] (.file content) [child, manifestName] =
        files [child, manifestName] := if_neg (by simp)
  have hroot (root : List FileName) :
      PayloadRoot (files.set [checksumsName] (.file content)) root ↔
        ∃ child, root = [child] ∧ files [child] = some .dir ∧
          files [child, manifestName] ≠ none := by
    rw [PayloadRoot, if_pos hmanifest]
    refine exists_congr fun child => and_congr_right fun _ => ?_
    rw [hdir, hinside]
    exact ⟨fun h => ⟨h.1.2, h.2⟩, fun h => ⟨⟨hne child h.1, h.1⟩, h.2⟩⟩
  rw [PackageVerifies, HoldsPackage]
  constructor
  · rintro ⟨⟨root, hfound⟩, hall⟩
    obtain ⟨child, -, hchild⟩ := (hroot root).mp hfound
    refine ⟨⟨child, hchild⟩, fun child hfile hname => ?_⟩
    obtain ⟨checksums, hverified, hcomplete⟩ :=
      hall [child] ((hroot [child]).mpr ⟨child, rfl, hfile, hname⟩)
    rw [hbelow child (hne child hfile)] at hverified hcomplete
    exact ⟨checksums, verifyChecksums_ok_iff.mp hverified, hcomplete⟩
  · rintro ⟨⟨child, hchild⟩, hall⟩
    refine ⟨⟨[child], (hroot [child]).mpr ⟨child, rfl, hchild⟩⟩, fun root hfound => ?_⟩
    obtain ⟨child, rfl, hfile, hname⟩ := (hroot root).mp hfound
    obtain ⟨checksums, hverified, hcomplete⟩ := hall child hfile hname
    rw [hbelow child (hne child hfile)]
    exact ⟨checksums, verifyChecksums_ok_iff.mpr hverified, hcomplete⟩

theorem validPath_put {content : Bytes} {entries' : List StagedEntry}
    (hvalid : ∀ e ∈ entries, ValidPath e.path)
    (hput : putChecksums content entries = .ok entries') :
    ∀ e ∈ entries', ValidPath e.path := by
  have hlist : ValidPath [checksumsName] := ⟨List.cons_ne_nil _ _, by decide⟩
  unfold putChecksums at hput
  split at hput
  · cases hput
    intro e he
    rw [List.mem_append, List.mem_cons] at he
    rcases he with he | rfl | he
    · exact hvalid e ((List.takeWhile_sublist _).subset he)
    · exact hlist
    · exact hvalid e ((List.dropWhile_sublist _).subset he)
  · split at hput
    · cases hput
      intro e he
      obtain ⟨e', he', rfl⟩ := List.mem_map.mp he
      rw [overwrite_path]
      exact hvalid e' he'
    · cases hput
      exact hvalid
    · cases hput
      exact hvalid
    · cases hput
    · cases hput

theorem makeArchive_ok {tree : StagingTree} {members : List Member} :
    makeArchive py tree = .ok members ↔ ∃ text entries',
      checksumText py (listedFiles tree.entries) = some text ∧
        putChecksums (utf8 text) tree.entries = .ok entries' ∧
        members = archiveMembers [] entries' := by
  unfold makeArchive writeChecksums
  constructor
  · intro h
    cases htext : checksumText py (listedFiles tree.entries) with
    | none =>
        rw [htext] at h
        cases h
    | some text =>
        simp only [htext] at h
        cases hput : putChecksums (utf8 text) tree.entries with
        | error e =>
            rw [hput] at h
            cases h
        | ok entries' =>
            rw [hput] at h
            cases h
            exact ⟨text, entries', rfl, hput, rfl⟩
  · rintro ⟨text, entries', htext, hput, rfl⟩
    simp only [htext, hput]
    rfl

/-- The package of a directory with its list in it. -/
theorem packageVerifies_iff {tree : StagingTree} (hfile : ListIsFile tree.entries)
    (hnamed : ∀ f ∈ listedFiles tree.entries, Encodable f.1)
    (htext : text = (((listedFiles tree.entries).map (lineOf py)).map (· ++ ['\n'])).flatten) :
    PackageVerifies py ((fileTree tree.entries).set [checksumsName] (.file (utf8 text))) ↔
      if fileTree tree.entries [manifestName] = none then HoldsPackage py (fileTree tree.entries)
      else HoldsPlainFiles py tree.entries := by
  split_ifs with hmanifest
  · refine packageVerifies_of_none hmanifest fun hdir => ?_
    obtain ⟨e, he, hpath, hnode⟩ := fileTree_eq_some (List.cons_ne_nil _ _) hdir
    obtain ⟨inode, old, hold⟩ := hfile e he hpath
    simp [StagedEntry.node?, hold] at hnode
  · have hsame : (fileTree tree.entries).set [checksumsName] (.file (utf8 text)) [manifestName] =
        fileTree tree.entries [manifestName] := if_neg (by decide)
    rw [packageVerifies_of_manifest (hsame ▸ hmanifest)]
    exact verified_list tree.paths_nodup tree.paths_valid hnamed htext

theorem roundTrips_of_packable {tree : StagingTree} (h : Packable py maxSize tree) :
    RoundTrips py maxSize tree := by
  have htext : checksumText py (listedFiles tree.entries) = some _ :=
    checksumText_eq_some.mpr ⟨h.encodable, rfl⟩
  obtain ⟨entries', hput, ⟨P⟩⟩ := exists_placement _ tree.paths_nodup h.packs.inodes_nodup
    h.listIsFile
  refine ⟨_, _, makeArchive_ok.mpr ⟨_, entries', htext, hput, rfl⟩,
    (safeExtract_archive (P.paths_nodup tree.paths_nodup) (P.validPath tree.paths_valid)
      (P.parentsFirst tree.parents_first)).mpr ⟨P.packs h.packs, ?_, rfl⟩, ?_⟩
  · rw [P.size_eq, length_utf8_list]
    exact h.size_le
  · rw [P.fileTree_eq, packageVerifies_iff h.listIsFile h.encodable rfl]
    exact h.package

theorem packable_of_roundTrips {tree : StagingTree} (h : RoundTrips py maxSize tree) :
    Packable py maxSize tree := by
  obtain ⟨members, files, hmake, hextract, hverifies⟩ := h
  obtain ⟨text, entries', htext, hput, rfl⟩ := makeArchive_ok.mp hmake
  obtain ⟨hnamed, htext⟩ := checksumText_eq_some.mp htext
  obtain ⟨⟨total, hcheck⟩, -⟩ := safeExtractArchive_ok hextract
  obtain ⟨hpacks', -⟩ := (checkMembers_archive [] (validPath_put tree.paths_valid hput)
    (Nat.zero_le _)).mp hcheck
  obtain ⟨hpacks, hfile⟩ := packs_of_putChecksums tree.paths_nodup hput hpacks'
  obtain ⟨found, hfound, ⟨P⟩⟩ := exists_placement (utf8 text) tree.paths_nodup hpacks.inodes_nodup
    hfile
  rw [hput] at hfound
  cases hfound
  obtain ⟨-, hsize, rfl⟩ := (safeExtract_archive (P.paths_nodup tree.paths_nodup)
    (P.validPath tree.paths_valid) (P.parentsFirst tree.parents_first)).mp hextract
  rw [P.size_eq, htext, length_utf8_list] at hsize
  rw [P.fileTree_eq] at hverifies
  exact ⟨hpacks, hfile, hnamed, hsize, (packageVerifies_iff hfile hnamed htext).mp hverifies⟩

end Whole

/-- An accepted archive is contained, and it is complete exactly where its list names what its
members leave; the archive of a staging directory is accepted, and complete, exactly where the
directory is packable. -/
theorem backups_complete_iff (py : Python) (maxSize : ℕ) :
    (∀ members,
      (∀ files root checksums, Accepts py maxSize members files root checksums →
        Contained members checksums ∧ Complete py (files.below root) checksums) ↔
      ∀ files root checksums, Accepts py maxSize members files root checksums →
        NamesMembers members root checksums) ∧
    ∀ tree, RoundTrips py maxSize tree ↔ Packable py maxSize tree := by
  refine ⟨fun members => ?_, fun tree => ⟨packable_of_roundTrips, roundTrips_of_packable⟩⟩
  constructor
  · exact fun h files root checksums haccepts =>
      haccepts.complete_iff.mp (h files root checksums haccepts).2
  · exact fun h files root checksums haccepts =>
      ⟨haccepts.contained, haccepts.complete_iff.mpr (h files root checksums haccepts)⟩

/-! ## An archive with a file that is not listed, and a name with an asterisk -/

def emptyDigest : List Char :=
  "e3b0c44298fc1c149afbf4c8996fb92427ae41e4649b934ca495991b7852b855".toList

def manifestDigest : List Char :=
  "44136fa355b3678a1146ad16f7e8649e94fb4fc21fe77e8310c060f61caaff8a".toList

/-- Python at an empty file and at the manifest of an empty object. -/
def samplePython : Python where
  sha256 content := if content = utf8 ['{', '}'] then manifestDigest else emptyDigest
  sha256_length content := by
    split_ifs
    · decide
    · decide
  sha256_hex content := by
    split_ifs
    · decide
    · decide
  loads text := if text = ['{', '}'] then some {} else none
  lower := List.map Char.toLower

/-- The manifest and an empty file, with a list of the manifest alone. -/
def unlistedMembers : List Member :=
  [{ name := manifestName, kind := .regular, content := utf8 ['{', '}'] },
    { name := ofText ['a'], kind := .regular },
    { name := checksumsName, kind := .regular,
      content := utf8 (manifestDigest ++ ' ' :: ' ' :: "manifest.json".toList ++ ['\n']) }]

/-- The manifest and an empty file with an asterisk in its name. -/
def starTree : StagingTree where
  entries :=
    [{ path := [ofText ['*', 'a']], node := .file 2 [] },
      { path := [manifestName], node := .file 1 (utf8 ['{', '}']) }]
  paths_nodup := by decide
  paths_valid := by decide
  parents_first := by
    refine ⟨fun dir hdir hroot => ?_, fun dir hdir hroot => ?_, trivial⟩
    · exact absurd (List.mem_singleton.mp hdir) hroot
    · exact absurd (List.mem_singleton.mp hdir) hroot

/-- The list of this directory. -/
def starList : List Char :=
  emptyDigest ++ ' ' :: ' ' :: "*a".toList ++ ['\n'] ++
    (manifestDigest ++ ' ' :: ' ' :: "manifest.json".toList ++ ['\n'])

/-- And its archive. -/
def starMembers : List Member :=
  [{ name := ofText ['*', 'a'], kind := .regular },
    { name := checksumsName, kind := .regular, content := utf8 starList },
    { name := manifestName, kind := .regular, content := utf8 ['{', '}'] }]

theorem exists_ok_of_map {ε α β : Type} {x : Except ε α} {f : α → β} {b : β}
    (h : x.map f = .ok b) : ∃ a, x = .ok a ∧ f a = b := by
  cases x with
  | error e => cases h
  | ok a => exact ⟨a, rfl, Except.ok.inj h⟩

set_option maxRecDepth 4000 in
/-- The first archive is accepted without its second file being listed, and the archive of the
second directory is refused. -/
theorem incomplete_backups :
    (∃ files checksums, Accepts samplePython 1000 unlistedMembers files [] checksums ∧
      ¬Complete samplePython (files.below []) checksums) ∧
    ∃ members files, makeArchive samplePython starTree = .ok members ∧
      safeExtractArchive 1000 members = .ok files ∧ PayloadRoot files [] ∧
      verifyChecksums samplePython (files.below []) = .error .targetMissing := by
  constructor
  · have hrun : (safeExtractArchive 1000 unlistedMembers).map (fun files =>
        (files [manifestName], files [ofText ['a']],
          verifyChecksums samplePython (files.below []))) =
        .ok (some (.file (utf8 ['{', '}'])), some (.file []),
          .ok [(manifestName, manifestDigest)]) := by
      rfl
    obtain ⟨files, hextract, hfiles⟩ := exists_ok_of_map hrun
    simp only [Prod.mk.injEq] at hfiles
    obtain ⟨hmanifest, hfile, hverify⟩ := hfiles
    refine ⟨files, _, ⟨hextract, ?_, hverify⟩, fun hcomplete => ?_⟩
    · rw [PayloadRoot, hmanifest, if_neg (by simp)]
    · obtain ⟨e, he, hpath, -⟩ := hcomplete [ofText ['a']] [] hfile (by decide) (by decide)
      rw [List.mem_singleton.mp he] at hpath
      exact absurd hpath (by decide)
  · have hmake : makeArchive samplePython starTree = .ok starMembers := by rfl
    have hrun : (safeExtractArchive 1000 starMembers).map (fun files =>
        (files [manifestName], verifyChecksums samplePython (files.below []))) =
        .ok (some (.file (utf8 ['{', '}'])), .error .targetMissing) := by
      rfl
    obtain ⟨files, hextract, hfiles⟩ := exists_ok_of_map hrun
    simp only [Prod.mk.injEq] at hfiles
    refine ⟨starMembers, files, hmake, hextract, ?_, hfiles.2⟩
    rw [PayloadRoot, hfiles.1, if_neg (by simp)]

end Qasedak.Backup
